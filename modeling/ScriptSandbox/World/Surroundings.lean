import ScriptSandbox.Files.Tree
import ScriptSandbox.World.Moment
import ScriptSandbox.World.Network

/-!
# Surroundings

What a host function finds outside the sandbox, apart from the browser: files, a source of random
words, the time, the machine and the network.
-/

namespace ScriptSandbox

/-! ## Chance -/

/-- A source of random words, given by its state. -/
structure Chance where
  state : UInt64
deriving DecidableEq, Repr, Inhabited

namespace Chance

/-- The next word: the state moves by a fixed odd step and is scrambled. -/
def word (c : Chance) : UInt64 × Chance :=
  let state := c.state + 0x9E3779B97F4A7C15
  let a := (state ^^^ (state >>> 30)) * 0xBF58476D1CE4E5B9
  let b := (a ^^^ (a >>> 27)) * 0x94D049BB133111EB
  (b ^^^ (b >>> 31), ⟨state⟩)

/-- A number below `count`. -/
def below (c : Chance) (count : Nat) : Nat × Chance :=
  let (high, c) := c.word
  let (low, c) := c.word
  ((high.toNat * 0x10000000000000000 + low.toNat) % count, c)

/-- A whole number between two others, both included. -/
def between (c : Chance) (low high : Int) : Int × Chance :=
  let (n, c) := c.below ((high - low).toNat + 1)
  (low + n, c)

def hexText (width n : Nat) : String :=
  let digit (i : Nat) : Char := Nat.digitChar (n / Nat.pow 16 (width - 1 - i) % 16)
  String.ofList ((List.range width).map digit)

/-- A random identifier: 122 random bits, version 4 and the usual variant. -/
def identifier (c : Chance) : String × Chance :=
  let (high, c) := c.word
  let (low, c) := c.word
  let a := high.toNat
  let b := low.toNat
  let parts := [hexText 8 (a / 0x100000000), hexText 4 (a / 0x10000), hexText 4 (0x4000 + a % 0x1000),
    hexText 4 (0x8000 + b / 0x1000000000000 % 0x4000), hexText 12 b]
  ("-".intercalate parts, c)

end Chance

/-! ## Surroundings -/

/-- What a machine says of itself. -/
structure Machine where
  system : Option String := none
  systemVersion : Option String := none
  kernel : Option String := none
  hostName : Option String := none
  architecture : String := "x86_64"
  processors : Nat := 1
  memory : Nat := 0
  freeMemory : Nat := 0
  uptime : Nat := 0
deriving DecidableEq, Repr, Inhabited

structure Surroundings where
  files : FileTree
  chance : Chance := ⟨0⟩
  now : Moment := ⟨0⟩
  machine : Machine := {}
  network : Network := {}
  /-- The milliseconds that calls have taken. -/
  spent : Nat := 0
deriving Repr, Inhabited

/-- What a host function does to its surroundings. Changes stay when it fails. -/
abbrev HostAction (α : Type) := ExceptT HostError (StateM Surroundings) α

namespace HostAction

def fail {α : Type} (f : Failure) : HostAction α := throw (.failure f)

def ofExcept {α : Type} : Except Failure α → HostAction α
  | .ok a => pure a
  | .error f => fail f

def look {α : Type} (query : FileTree → Except FileError α) : HostAction α := do
  match query (← get).files with
  | .ok a => pure a
  | .error e => throw (.io e.toIo)

/-- A change of the file tree, made whole or not at all. -/
def change (f : FileTree → Except FileError FileTree) : HostAction Unit := do
  match f (← get).files with
  | .ok files => modify fun w => { w with files }
  | .error e => throw (.io e.toIo)

/-- A change of the file tree of which a part may be made before an error. -/
def changePartly (f : FileTree → FileTree × Except FileError Unit) : HostAction Unit := do
  let (files, result) := f (← get).files
  modify fun w => { w with files }
  match result with
  | .ok () => pure ()
  | .error e => throw (.io e.toIo)

/-- Lets time pass. -/
def pause (milliseconds : Nat) : HostAction Unit :=
  modify fun w => { w with spent := w.spent + milliseconds }

def chance {α : Type} (draw : Chance → α × Chance) : HostAction α := do
  let (a, chance) := draw (← get).chance
  modify fun w => { w with chance }
  return a

end HostAction

end ScriptSandbox
