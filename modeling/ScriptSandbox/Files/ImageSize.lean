import ScriptSandbox.Text.Utf8

/-!
# Sizes of images

Width and height from the headers of four image formats. A JPEG file is walked segment by segment
up to the first frame header.
-/

namespace ScriptSandbox

structure ImageSize where
  width : Nat
  height : Nat
deriving DecidableEq, Repr

namespace ImageSize

/-- A number with its first byte most significant. -/
def bigEndian (bytes : Bytes) : Nat := bytes.foldl (fun n b => 256 * n + b.toNat) 0

/-- `count` bytes behind the first `start`, if there are as many. -/
def slice? (bytes : Bytes) (start count : Nat) : Option Bytes :=
  let s := (bytes.drop start).take count
  if s.length = count then some s else none

def big? (bytes : Bytes) (start count : Nat) : Option Nat := (slice? bytes start count).map bigEndian

def little? (bytes : Bytes) (start count : Nat) : Option Nat :=
  (slice? bytes start count).map fun s => bigEndian s.reverse

/-- The absolute value of a signed word of 32 bits. -/
def absolute (n : Nat) : Nat := if n < 0x80000000 then n else 0x100000000 - n

def png (bytes : Bytes) : Option ImageSize := do
  guard ((← slice? bytes 12 4) == Utf8.encode "IHDR")
  return ⟨← big? bytes 16 4, ← big? bytes 20 4⟩

def gif (bytes : Bytes) : Option ImageSize := do
  return ⟨← little? bytes 6 2, ← little? bytes 8 2⟩

/-- A negative height marks an image stored from the top. -/
def bmp (bytes : Bytes) : Option ImageSize := do
  return ⟨absolute (← little? bytes 18 4), absolute (← little? bytes 22 4)⟩

def isStandalone (marker : UInt8) : Bool :=
  marker == 0xd8 || marker == 0x01 || (0xd0 ≤ marker && marker ≤ 0xd7)

def isFrame (marker : UInt8) : Bool :=
  0xc0 ≤ marker && marker ≤ 0xcf && marker != 0xc4 && marker != 0xc8 && marker != 0xcc

theorem dropWhile_length (p : UInt8 → Bool) (bytes : Bytes) :
    (bytes.dropWhile p).length ≤ bytes.length :=
  (List.dropWhile_sublist p).length_le

/-- Walks the segments of a JPEG file, from between two of them. -/
def segments (bytes : Bytes) : Option ImageSize :=
  match _h : (bytes.dropWhile (· != 0xff)).dropWhile (· == 0xff) with
  | [] => none
  | marker :: rest =>
    if isStandalone marker then segments rest
    else if marker == 0xd9 || marker == 0xda then none
    else if isFrame marker then do
      let height ← big? rest 3 2
      return ⟨← big? rest 5 2, height⟩
    else
      match big? rest 0 2 with
      | none => none
      | some length => segments (rest.drop length)
termination_by bytes.length
decreasing_by
  all_goals
    have h₁ := dropWhile_length (· == 0xff) (bytes.dropWhile (· != 0xff))
    have h₂ := dropWhile_length (· != 0xff) bytes
    rw [_h] at h₁
    simp only [List.length_cons, List.length_drop] at *
    omega

def jpeg (bytes : Bytes) : Option ImageSize := segments (bytes.drop 2)

/-- The size by the name of the format. -/
def ofFormat (format : String) (bytes : Bytes) : Option ImageSize :=
  match format with
  | "png" => png bytes
  | "gif" => gif bytes
  | "bmp" => bmp bytes
  | "jpg" => jpeg bytes
  | _ => none

end ImageSize

end ScriptSandbox
