import ScriptSandbox.Text.Utf8

/-!
# Base64

The standard alphabet with padding. Decoding accepts the encoded form alone: padding must be
complete, and the bits behind the last byte must be zero.
-/

namespace ScriptSandbox.Base64

/-- The symbol of a number below 64. -/
def symbol (n : Nat) : UInt8 :=
  if n < 26 then UInt8.ofNat (65 + n)
  else if n < 52 then UInt8.ofNat (71 + n)
  else if n < 62 then UInt8.ofNat (n - 4)
  else if n = 62 then 43
  else 47

def value? (b : UInt8) : Option Nat :=
  let n := b.toNat
  if 65 ≤ n ∧ n ≤ 90 then some (n - 65)
  else if 97 ≤ n ∧ n ≤ 122 then some (n - 71)
  else if 48 ≤ n ∧ n ≤ 57 then some (n + 4)
  else if n = 43 then some 62
  else if n = 47 then some 63
  else none

def pad : UInt8 := 61

def encode : Bytes → Bytes
  | [] => []
  | [a] =>
    let n := a.toNat * 16
    [symbol (n / 64), symbol (n % 64), pad, pad]
  | [a, b] =>
    let n := (a.toNat * 256 + b.toNat) * 4
    [symbol (n / 4096), symbol (n / 64 % 64), symbol (n % 64), pad]
  | a :: b :: c :: rest =>
    let n := (a.toNat * 256 + b.toNat) * 256 + c.toNat
    symbol (n / 262144) :: symbol (n / 4096 % 64) :: symbol (n / 64 % 64) :: symbol (n % 64) ::
      encode rest

inductive Error
  | symbol (byte : UInt8) (offset : Nat)
  | length (count : Nat)
  | lastSymbol (byte : UInt8) (offset : Nat)
  | padding
deriving DecidableEq, Repr

def Error.message : Error → String
  | .symbol b at_ => s!"Invalid symbol {b.toNat}, offset {at_}."
  | .length n => s!"Invalid input length: {n}"
  | .lastSymbol b at_ => s!"Invalid last symbol {b.toNat}, offset {at_}."
  | .padding => "Invalid padding"

/-- The values of the symbols before the padding of a last group, which starts at `offset`; `seen`
are the values read, in reverse. -/
def groupValues (offset : Nat) (seen : List Nat) : Bytes → Except Error (List Nat × Nat)
  | [] => .ok (seen.reverse, 0)
  | b :: rest =>
    let at_ := offset + seen.length
    if b = pad then
      if seen.length < 2 then .error (.symbol b at_)
      else if rest.all (· = pad) then .ok (seen.reverse, 1 + rest.length)
      else .error (.symbol pad at_)
    else
      match value? b with
      | some v => groupValues offset (v :: seen) rest
      | none => .error (.symbol b at_)

/-- The bytes of a last group of at most four symbols. -/
def decodeLast (offset : Nat) (group : Bytes) : Except Error Bytes := do
  let (values, padding) ← groupValues offset [] group
  let count := values.length
  if group ≠ [] ∧ count < 2 then throw (.length (offset + count))
  if (padding + count) % 4 ≠ 0 then throw .padding
  let bits := values.foldl (fun acc v => acc * 64 + v) 0
  let last := group[count - 1]?.getD 0
  match count with
  | 2 =>
    if bits % 16 ≠ 0 then throw (.lastSymbol last (offset + 1))
    return [UInt8.ofNat (bits / 16)]
  | 3 =>
    if bits % 4 ≠ 0 then throw (.lastSymbol last (offset + 2))
    return [UInt8.ofNat (bits / 1024), UInt8.ofNat (bits / 4)]
  | 4 => return [UInt8.ofNat (bits / 65536), UInt8.ofNat (bits / 256), UInt8.ofNat bits]
  | _ => return []

/-- The first byte of a group that is no symbol. -/
def wrongIn (offset : Nat) (group : Bytes) : Error :=
  match group.zipIdx.find? fun (b, _) => (value? b).isNone with
  | some (b, i) => .symbol b (offset + i)
  | none => .padding

def decodeFrom (offset : Nat) : Bytes → Except Error Bytes
  | a :: b :: c :: d :: e :: rest =>
    match value? a, value? b, value? c, value? d with
    | some x, some y, some z, some w =>
      let n := ((x * 64 + y) * 64 + z) * 64 + w
      (decodeFrom (offset + 4) (e :: rest)).map fun bytes =>
        UInt8.ofNat (n / 65536) :: UInt8.ofNat (n / 256) :: UInt8.ofNat n :: bytes
    | _, _, _, _ => .error (wrongIn offset [a, b, c, d])
  | group => decodeLast offset group

/-- A single byte behind whole groups is looked at first. -/
def decode (bytes : Bytes) : Except Error Bytes :=
  match bytes.getLast? with
  | some last =>
    if bytes.length % 4 = 1 ∧ last ≠ pad ∧ (value? last).isNone then
      .error (.symbol last (bytes.length - 1))
    else decodeFrom 0 bytes
  | none => .ok []

def encodeText (bytes : Bytes) : String :=
  String.ofList ((encode bytes).map fun b => Char.ofNat b.toNat)

def decodeText (text : String) : Except Error Bytes := decode (Utf8.encode text)

end ScriptSandbox.Base64
