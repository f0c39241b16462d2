import ScriptSandbox.Guest.Global
import ScriptSandbox.Json.Printer
import ScriptSandbox.Text.Blank

/-!
# Scripts with variables of their own

A script with variables is evaluated within a function that has them as parameters. Their values,
and the script itself, travel through one object, the scratch, which is a global for as long as the
evaluation takes.
-/

namespace ScriptSandbox

open Guest

namespace Scratch

/-- Words that name no variable. -/
def reserved : List String :=
  ["arguments", "await", "break", "case", "catch", "class", "const", "continue", "debugger",
    "default", "delete", "do", "else", "enum", "eval", "export", "extends", "false", "finally",
    "for", "function", "if", "implements", "import", "in", "instanceof", "interface", "let",
    "new", "null", "package", "private", "protected", "public", "return", "static", "super",
    "switch", "this", "throw", "true", "try", "typeof", "var", "void", "while", "with", "yield"]

def startsName (c : Char) : Bool := c.isAlpha || c == '_' || c == '$'

def isIdentifier (name : String) : Bool :=
  match name.toList with
  | [] => false
  | c :: cs => startsName c && cs.all fun c => startsName c || c.isDigit

def isUsable (name : String) : Bool := isIdentifier name && !reserved.contains name

def unusable (name : String) : Failure :=
  .invalidInput s!"'{name}' is not a usable variable name"

/-- The key of the script in the scratch; no variable has this name. -/
def sourceKey : String := "@source"

/-- The name of a scratch, out of an identifier that nobody can guess. -/
def slotName (label : String) : String :=
  "__scriptbox_scratch_" ++ String.ofList (label.toList.filter (· != '-'))

/-- The fields of the scratch. -/
def content (source : String) (vars : List (String × Json)) : Json :=
  .obj (Json.insertField sourceKey (.str source) vars)

/-- The script that evaluates the one in the scratch with the variables bound. -/
def wrapper (slot : String) (vars : List (String × Json)) : String :=
  let names := vars.map Prod.fst
  let part (name : String) : String := slot ++ "[" ++ Json.quote name ++ "]"
  "(function (" ++ ", ".intercalate names ++ ") \x7b return eval(" ++ part sourceKey ++ "); \x7d)(" ++
    ", ".intercalate (names.map part) ++ ")"

/-- Puts the scratch where the wrapper finds it. -/
def place (slot source : String) (vars : List (String × Json)) (r : Realm) :
    Except Mistake Realm :=
  let (v, r) := r.bringIn (content source vars)
  r.defineGlobal slot (.plain v)

/-- Evaluates a script with variables through a scratch named `slot`. The scratch is removed however
the evaluation ends, unless the script has seen to it that it stays. -/
def evaluateWith (evaluate : String → GuestAction (Except Failure Json)) (slot source : String)
    (vars : List (String × Json)) : GuestAction (Except Failure Json) := do
  match vars.find? (!isUsable ·.1) with
  | some (name, _) => return .error (unusable name)
  | none =>
    match place slot source vars (← get) with
    | .error e => return .error (guestFailure e.display)
    | .ok r =>
      set r
      let result ← evaluate (wrapper slot vars)
      modify (·.dropGlobal slot)
      return result

end Scratch

end ScriptSandbox
