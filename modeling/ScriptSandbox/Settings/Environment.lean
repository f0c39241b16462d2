import ScriptSandbox.Settings.Basic

/-!
# Settings in the environment

Six variables make up a layer. One that is set to something it cannot mean is an error, and the
first of them in the order of the table below is the one reported.
-/

namespace ScriptSandbox.Environment

/-- Variables and their values. -/
abbrev Variables := List (String × String)

/-- A number of at most 64 bits, perhaps behind a plus sign. -/
def word? (text : String) : Option Nat :=
  let cs := text.toList
  let digits := if cs.head? = some '+' then cs.drop 1 else cs
  if digits = [] ∨ !digits.all Char.isDigit then none
  else
    let n := digits.foldl (fun n c => 10 * n + (c.toNat - 48)) 0
    if n < 0x10000000000000000 then some n else none

def number (vars : Variables) (name : String) : Except String (Option Nat) :=
  match vars.lookup name with
  | none => .ok none
  | some raw =>
    match word? (Text.trim raw) with
    | some n => .ok (some n)
    | none => .error (name ++ " must be an integer, got '" ++ raw ++ "'")

def truth (text : String) : Except String Bool :=
  match Text.lower (Text.trim text) with
  | "true" | "1" | "yes" => .ok true
  | "false" | "0" | "no" => .ok false
  | other => .error ("invalid boolean '" ++ other ++ "'")

/-- Switches off the features with these names; blank names count for nothing. -/
def disable (layer : Layer) : List String → Except String Layer
  | [] => .ok layer
  | name :: rest =>
    if Text.isBlankText name then disable layer rest
    else
      match Feature.ofText name with
      | .error e => .error e
      | .ok f => disable (layer.off f) rest

/-- The names in a list, with a comma between any two. -/
def names (list : String) : List String := (list.toList.splitOn ',').map String.ofList

/-- What the environment says of the settings. -/
def layer (vars : Variables) : Except String Layer := do
  let scriptTimeout ← number vars "SCRIPTBOX_DEFAULT_TIMEOUT_MS"
  let httpTimeout ← number vars "SCRIPTBOX_HTTP_TIMEOUT_MS"
  let browserTimeout ← number vars "SCRIPTBOX_BROWSER_TIMEOUT_MS"
  let maxFileSize ← number vars "SCRIPTBOX_MAX_FILE_SIZE"
  let headless ← (vars.lookup "SCRIPTBOX_HEADLESS").mapM truth
  let base : Layer := { scriptTimeout, httpTimeout, browserTimeout, maxFileSize, headless }
  disable base (names ((vars.lookup "SCRIPTBOX_DISABLE").getD ""))

end ScriptSandbox.Environment
