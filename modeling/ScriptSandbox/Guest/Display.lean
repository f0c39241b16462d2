import ScriptSandbox.Guest.Conversion

/-!
# Values as messages show them

Texts stand in double quotes. An array shows its items on one line, an array within it only their
number; any other object shows its properties on lines of their own. An error shows its name and its
message.
-/

namespace ScriptSandbox.Guest

namespace Realm

/-- The text of a property, an empty one where there is none. -/
def peekText (r : Realm) (o : ObjId) (key : String) : Option Units :=
  match r.peek o key with
  | .text u => some u
  | _ => none

def numberShown (x : Double) : String :=
  if x.isZero && x.isNegative then "-0" else Units.text (numberText x)

/-- A value that is no object. -/
def showPlain (v : Value) : String :=
  match v with
  | .text u => "\"" ++ Units.shownText u ++ "\""
  | .number x => numberShown x
  | .bigint n => intText n ++ "n"
  | .symbol _ label => Units.shownText (Value.symbolText label)
  | v => Units.shownText ((v.toText.toOption).getD [])

/-- The name and the message of an error; one that is empty is left out. -/
def showError (r : Realm) (o : ObjId) : String :=
  let partOf (key : String) : String :=
    match r.peek o key with
    | .text u => Units.shownText u
    | .undefined => ""
    | .object _ => ""
    | v => showPlain v
  let name := if (r.find o (Units.ofString "name")).isNone then "<error>" else partOf "name"
  let message := partOf "message"
  if name.isEmpty then message
  else if message.isEmpty then name
  else name ++ ": " ++ message

/-- A function, by its name. -/
def showFunction (r : Realm) (o : ObjId) : String :=
  match r.peekText o "name" with
  | some u => if u.isEmpty then "[Function (anonymous)]" else "[Function: " ++ Units.shownText u ++ "]"
  | none => "[Function (anonymous)]"

def blanks (n : Nat) : String := String.ofList (List.replicate n ' ')

/-- What stands for a property that is no value. -/
def accessorLabel (getter setter : Value) : String :=
  match getter, setter with
  | .undefined, .undefined => "No Getter/Setter"
  | .undefined, _ => "Setter"
  | _, .undefined => "Getter"
  | _, _ => "Getter & Setter"

/-- An object by its properties. `around` are the objects that it stands in. -/
def showProps (shown : Value → String) (indent : Nat) (around : List ObjId) (o : ObjId)
    (props : List (Units × Property)) : String :=
  if around.contains o then "[Cycle]"
  else
    let line (p : Units × Property) : String :=
      let text := match p.2.slot with
        | .data v _ => shown v
        | .accessor g s => accessorLabel g s
      blanks indent ++ Units.shownText p.1 ++ ": " ++ text
    "\x7b\n" ++ ",\n".intercalate (props.map line) ++ "\n" ++ blanks (indent - 4) ++ "\x7d"

/-- A value; `whole` says whether an array shows its items, `around` are the objects that it stands
in, and `depth` bounds how many of these there can be. -/
def showIn (r : Realm) (whole : Bool) (indent : Nat) (around : List ObjId) : Nat → Value → String
  | 0, _ => "[Cycle]"
  | depth + 1, v =>
    match v with
    | .object o =>
      let x := r.obj o
      match x.kind with
      | .array items =>
        if items.isEmpty then "[]"
        else if whole then
          let show' (v : Option Value) : String :=
            match v with
            | some v => showIn r false indent around depth v
            | none => "<empty>"
          "[ " ++ ", ".intercalate (items.toList.map show') ++ " ]"
        else s!"Array({items.size})"
      | .closure _ _ | .native _ | .host _ _ => r.showFunction o
      | .error => r.showError o
      | .boxed (.text u) => "String \x7b \"" ++ Units.shownText u ++ "\" \x7d"
      | .boxed (.number n) => "Number \x7b " ++ numberShown n ++ " \x7d"
      | .boxed (.bool b) => "Boolean \x7b " ++ (if b then "true" else "false") ++ " \x7d"
      | .promise (.pending _) => "Promise \x7b <pending> \x7d"
      | .promise (.fulfilled v) => "Promise \x7b " ++ showIn r true 4 around depth v ++ " \x7d"
      | .promise (.rejected v) =>
        "Promise \x7b <rejected> " ++ showIn r true 4 around depth v ++ " \x7d"
      | _ => showProps (showIn r true (indent + 4) (o :: around) depth) indent around o x.entries
    | v => showPlain v

/-- A value as a message shows it. -/
def display (r : Realm) (v : Value) : String := r.showIn true 4 [] (r.objects.size + 1) v

end Realm

end ScriptSandbox.Guest
