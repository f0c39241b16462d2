import ScriptSandbox.Files.Tree
import ScriptSandbox.Json.Reader
import ScriptSandbox.Settings.Basic
import ScriptSandbox.Text.Category

/-!
# Settings files

A settings file holds one JSON object, or an array of the values in the order of `fieldNames`.
Every field is optional and null means the same as no field. Other names are passed over, whatever
their values are.
-/

namespace ScriptSandbox.SettingsFile

open Json

/-! ## Values of one shape -/

def foundNumber : Number → String
  | .int n => "integer `" ++ intText n ++ "`"
  | .double x => "floating point `" ++ x.text ++ "`"

/-- The fault for a value of another shape than the one asked for. -/
def wrongShape (expected : String) (s : Bytes) : Fault :=
  let wrong (found : String) (rest : Bytes) : Fault := .here (.wrongShape found expected) rest
  let word (w : List Char) (found : String) (r : Bytes) : Fault :=
    match readWord w r with
    | .ok rest => wrong found rest
    | .error f => f
  let number (negative : Bool) (r : Bytes) : Fault :=
    match readNumber negative r with
    | .ok (n, rest) => wrong (foundNumber n) rest
    | .error f => f
  match s with
  | 110 :: r => word "ull".toList "null" r
  | 116 :: r => word "rue".toList "boolean `true`" r
  | 102 :: r => word "alse".toList "boolean `false`" r
  | 45 :: r => number true r
  | 34 :: r =>
    match readString r with
    | .ok (text, rest) => wrong ("string " ++ Text.quoted text) rest
    | .error f => f
  | 91 :: _ => wrong "sequence" s
  | 123 :: _ => wrong "map" s
  | b :: _ => if isDigit b then number false s else .next .noValue s
  | [] => .next .noValue []

def wordOf (result : Except Fault (Number × Bytes)) : Except Fault (Nat × Bytes) :=
  match result with
  | .error f => .error f
  | .ok (.int n, rest) =>
    if 0 ≤ n then .ok (n.toNat, rest)
    else .error (.here (.wrongValue (foundNumber (.int n)) "u64") rest)
  | .ok (.double x, rest) => .error (.here (.wrongShape (foundNumber (.double x)) "u64") rest)

def readWord64 : Reader Nat := fun s =>
  match skipSpace s with
  | [] => .error (.next .endInValue [])
  | 45 :: r => wordOf (readNumber true r)
  | b :: r =>
    if isDigit b then wordOf (readNumber false (b :: r)) else .error (wrongShape "u64" (b :: r))

def readTruth : Reader Bool := fun s =>
  match skipSpace s with
  | [] => .error (.next .endInValue [])
  | 116 :: r => (readWord "rue".toList r).map fun r => (true, r)
  | 102 :: r => (readWord "alse".toList r).map fun r => (false, r)
  | s => .error (wrongShape "a boolean" s)

def readText : Reader String := fun s =>
  match skipSpace s with
  | [] => .error (.next .endInValue [])
  | 34 :: r => readString r
  | s => .error (wrongShape "a string" s)

/-- Texts up to a closing bracket, behind those in `acc`, which stand in reverse. -/
def readTexts (acc : List String) : Nat → Reader (List String)
  | 0, s => .error (.here .endInList s)
  | n + 1, s =>
    match nextItem acc.isEmpty s with
    | .error f => .error f
    | .ok (false, r) => .ok (acc.reverse, r.drop 1)
    | .ok (true, r) =>
      match readText r with
      | .error f => .error f
      | .ok (text, r) => readTexts (text :: acc) n r

def readTextList : Reader (List String) := fun s =>
  match skipSpace s with
  | [] => .error (.next .endInValue [])
  | 91 :: r => readTexts [] (r.length + 1) r
  | s => .error (wrongShape "a sequence" s)

/-- A value or null. -/
def optional (read : Reader α) : Reader (Option α) := fun s =>
  match skipSpace s with
  | 110 :: r => (readWord "ull".toList r).map fun r => (none, r)
  | s => (read s).map fun (x, r) => (some x, r)

/-! ## Values passed over -/

/-- The end of a string behind its opening quote; its characters need not be valid. -/
def skipString : Nat → Bytes → Except Fault Bytes
  | 0, s => .error (.here .endInString s)
  | _ + 1, [] => .error (.here .endInString [])
  | n + 1, b :: r =>
    if b = 34 then .ok r
    else if b = 92 then
      match r with
      | [] => .error (.here .endInString [])
      | 117 :: r => (readHex r).bind fun (_, r) => skipString n r
      | c :: r =>
        if [34, 92, 47, 98, 102, 110, 114, 116].contains c then skipString n r
        else .error (.here .badEscape r)
    else if b < 32 then .error (.here .controlCharacter (b :: r))
    else skipString n r

/-- The digits of a number's exponent. -/
def skipExponent (s : Bytes) : Except Fault Bytes :=
  let s := match s with
    | 43 :: r | 45 :: r => r
    | s => s
  match s with
  | b :: r => if isDigit b then .ok (r.dropWhile isDigit) else .error (.here .badNumber r)
  | [] => .error (.here .badNumber [])

/-- A number behind its sign. -/
def skipNumber (s : Bytes) : Except Fault Bytes := do
  let s ← match s with
    | 48 :: r =>
      match r with
      | b :: _ => if isDigit b then throw (.next .badNumber r) else pure r
      | [] => pure r
    | b :: r => if isDigit b then pure (r.dropWhile isDigit) else throw (.here .badNumber r)
    | [] => throw (.here .badNumber [])
  match s with
  | 46 :: r =>
    match r with
    | b :: _ =>
      if !isDigit b then throw (.next .badNumber r)
      match r.dropWhile isDigit with
      | 101 :: r | 69 :: r => skipExponent r
      | r => pure r
    | [] => throw (.next .badNumber r)
  | 101 :: r | 69 :: r => skipExponent r
  | s => pure s

/-- Which brackets are open, the innermost first. -/
inductive Bracket
  | list
  | object
deriving DecidableEq, Repr

def Bracket.closes (b : UInt8) : Bracket → Bool
  | .list => b == 93
  | .object => b == 125

/-- Where a skipped text stands. -/
inductive SkipPoint
  /-- Before a value. -/
  | value
  /-- Behind a value or an opening bracket; a comma may follow the former. -/
  | gap (comma : Bool)

/-- Passes over one value. -/
def skipValue (open_ : List Bracket) (point : SkipPoint) : Nat → Bytes → Except Fault Bytes
  | 0, s => .error (.here .noValue s)
  | n + 1, s =>
    match point with
    | .value =>
      let scalar (rest : Except Fault Bytes) : Except Fault Bytes :=
        match rest with
        | .error f => .error f
        | .ok r => if open_ = [] then .ok r else skipValue open_ (.gap true) n r
      match skipSpace s with
      | [] => .error (.next .endInValue [])
      | 110 :: r => scalar (readWord "ull".toList r)
      | 116 :: r => scalar (readWord "rue".toList r)
      | 102 :: r => scalar (readWord "alse".toList r)
      | 45 :: r => scalar (skipNumber r)
      | 34 :: r => scalar (skipString (r.length + 1) r)
      | 91 :: r => skipValue (.list :: open_) (.gap false) n r
      | 123 :: r => skipValue (.object :: open_) (.gap false) n r
      | b :: r => if isDigit b then scalar (skipNumber (b :: r)) else .error (.next .noValue (b :: r))
    | .gap comma =>
      match open_ with
      | [] => .ok s
      | bracket :: outer =>
        let name (s : Bytes) : Except Fault Bytes :=
          match bracket with
          | .list => .ok s
          | .object =>
            match skipSpace s with
            | [] => .error (.next .endInObject [])
            | 34 :: r => (skipString (r.length + 1) r).bind readColon
            | s => .error (.next .keyNotString s)
        let inside (s : Bytes) : Except Fault Bytes :=
          match name s with
          | .error f => .error f
          | .ok s => skipValue open_ .value n s
        match skipSpace s with
        | [] => .error (.next (if bracket = .list then .endInList else .endInObject) [])
        | b :: r =>
          if b = 44 ∧ comma then inside r
          else if bracket.closes b then
            if outer = [] then .ok r else skipValue outer (.gap true) n r
          else if comma then
            .error (.next (if bracket = .list then .noListComma else .noObjectComma) (b :: r))
          else inside (b :: r)

/-! ## The file -/

def fieldNames : List String :=
  ["default_timeout_ms", "http_timeout_ms", "browser_timeout_ms", "max_file_size",
    "allowed_file_types", "headless", "enable_browser", "enable_filesystem", "enable_http",
    "enable_documents", "enable_image_processing"]

/-- Reads the value of the field with this name into a layer. -/
def readField (name : String) (layer : Layer) : Reader Layer := fun s =>
  let put {α : Type} (read : Reader α) (set : Option α → Layer) : Except Fault (Layer × Bytes) :=
    (optional read s).map fun (x, r) => (set x, r)
  match name with
  | "default_timeout_ms" => put readWord64 fun x => { layer with scriptTimeout := x }
  | "http_timeout_ms" => put readWord64 fun x => { layer with httpTimeout := x }
  | "browser_timeout_ms" => put readWord64 fun x => { layer with browserTimeout := x }
  | "max_file_size" => put readWord64 fun x => { layer with maxFileSize := x }
  | "allowed_file_types" => put readTextList fun x => { layer with fileTypes := x }
  | "headless" => put readTruth fun x => { layer with headless := x }
  | "enable_browser" => put readTruth fun x => { layer with browser := x }
  | "enable_filesystem" => put readTruth fun x => { layer with filesystem := x }
  | "enable_http" => put readTruth fun x => { layer with http := x }
  | "enable_documents" => put readTruth fun x => { layer with documents := x }
  | "enable_image_processing" => put readTruth fun x => { layer with images := x }
  | _ => (skipValue [] .value (3 * s.length + 3) s).map fun r => (layer, r)

/-- The fault for a name that stands twice; a closing brace right behind it counts as read. -/
def repeated (name : String) (s : Bytes) : Fault :=
  match skipSpace s with
  | 125 :: r => .here (.repeatedField name) r
  | s => .here (.repeatedField name) s

def readObject (seen : List String) (first : Bool) (layer : Layer) : Nat → Reader Layer
  | 0, s => .error (.here .endInObject s)
  | n + 1, s =>
    match nextField first s with
    | .error f => .error f
    | .ok (false, r) => .ok (layer, r.drop 1)
    | .ok (true, r) =>
      match readString (r.drop 1) with
      | .error f => .error f
      | .ok (name, r) =>
        if seen.contains name then .error (repeated name r)
        else
          match readColon r with
          | .error f => .error f
          | .ok r =>
            match readField name layer r with
            | .error f => .error f
            | .ok (layer, r) =>
              let seen := if fieldNames.contains name then name :: seen else seen
              readObject seen false layer n r

/-- The end of a list of values. -/
def closeList (s : Bytes) : Except Fault Bytes :=
  match skipSpace s with
  | [] => .error (.next .endInList [])
  | 93 :: r => .ok r
  | 44 :: r =>
    match skipSpace r with
    | 93 :: r => .error (.next .trailingComma (93 :: r))
    | r => .error (.next .trailingText r)
  | s => .error (.next .trailingText s)

def readList (first : Bool) (layer : Layer) : List String → Reader Layer
  | [], s => (closeList s).map fun r => (layer, r)
  | name :: names, s =>
    match nextItem first s with
    | .error f => .error f
    | .ok (false, r) => .ok (layer, r.drop 1)
    | .ok (true, r) =>
      match readField name layer r with
      | .error f => .error f
      | .ok (layer, r) => readList false layer names r

/-- The layer that the bytes of a file describe. -/
def read (source : Bytes) : Except Fault Layer := do
  let (layer, rest) ← match skipSpace source with
    | [] => throw (.next .endInValue [])
    | 91 :: r => readList true {} fieldNames r
    | 123 :: r => readObject [] true {} (r.length + 1) r
    | s => throw (wrongShape "struct ConfigFile" s)
  readEnd rest
  return layer

/-- The layer in the file at a path. -/
def load (files : FileTree) (path : String) : Except String Layer :=
  match files.readText path with
  | .error e => .error ("Failed to read config at " ++ path ++ ": " ++ e.message)
  | .ok text =>
    let source := Utf8.encode text
    match read source with
    | .ok layer => .ok layer
    | .error f => .error ("Failed to parse config JSON at " ++ path ++ ": " ++ f.message source)

end ScriptSandbox.SettingsFile
