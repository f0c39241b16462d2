import ScriptSandbox.Guest.Conversion
import ScriptSandbox.Json.Printer

/-!
# Writing JSON text

A value is written step by step, since a property may be a function of the guest, and so may what
the value wants written in its stead; `Writing.step` says when one is to be called. Fields without a
text are left out, items without one are null.
-/

namespace ScriptSandbox.Guest

/-- What a step of writing comes to. -/
inductive WriteTurn
  | more (w : Writing)
  /-- Nothing is left. -/
  | done (text : Value)
  /-- A function is to be called; its result is written next. -/
  | call (w : Writing) (key : Units) (place : WritePlace) (isPlain : Bool) (f this : Value)
      (args : List Value)
  | mistake (m : Mistake)

namespace Writing

def start (v : Value) (indent : Units) : Writing := { steps := [.value v [] .top], indent }

/-- A character or a half of one inside a text. -/
def escape (u : UInt16) (half : Bool) : Units :=
  if half then Units.ofChars ('\\' :: 'u' :: Units.hexFour Json.hexDigit u.toNat)
  else Units.ofChars (Json.escapeChar (Char.ofNat u.toNat))

def escapes : Units → Units
  | [] => []
  | [u] => escape u (Units.isHalf u)
  | u :: v :: rest =>
    if Units.isHigh u && Units.isLow v then u :: v :: escapes rest
    else escape u (Units.isHalf u) ++ escapes (v :: rest)

def quote (u : Units) : Units := 34 :: (escapes u ++ [34])

def add (w : Writing) (u : Units) : Writing := { w with text := u.reverse ++ w.text }

/-- A new line, where lines are wanted. -/
def newline (w : Writing) : Writing :=
  if w.indent.isEmpty then w
  else w.add (10 :: (List.replicate w.around.length w.indent).flatten)

/-- What stands before a field or an item. -/
def lead (w : Writing) (key : Units) (place : WritePlace) : Writing :=
  match place, w.around with
  | .top, _ | _, [] => w
  | place, (o, started) :: rest =>
    let w := { w with around := (o, true) :: rest }
    let w := (if started then w.add [44] else w).newline
    match place with
    | .field => w.add (quote key ++ 58 :: (if w.indent.isEmpty then [] else [32]))
    | _ => w

def ofString (w : Writing) (s : String) : WriteTurn := .more (w.add (Units.ofString s))

/-- Writes an object or an array that begins here. -/
def enter (r : Realm) (w : Writing) (o : ObjId) : WriteTurn :=
  if w.around.any (·.1 == o) then .mistake (.type "cyclic object value")
  else
    let x := r.obj o
    let (first, last, inner) : UInt16 × UInt16 × List WriteStep :=
      match x.kind with
      | .array items =>
        (91, 93, (List.range items.size).map fun i => .property o (indexKey i) .item)
      | _ =>
        let keys := (x.entries.filter (·.2.enumerable)).map Prod.fst
        (123, 125, keys.map fun k => .property o k .field)
    let w := w.add [first]
    .more { w with steps := inner ++ .close last :: w.steps, around := (o, false) :: w.around }

/-- Writes a value for which nothing else is written. -/
def plain (r : Realm) (w : Writing) (v : Value) (key : Units) (place : WritePlace) : WriteTurn :=
  let nothing : WriteTurn :=
    match place with
    | .top => .done .undefined
    | .field => .more w
    | .item => (w.lead key place).ofString "null"
  let scalar (v : Value) : WriteTurn :=
    let w := w.lead key place
    match v with
    | .null => w.ofString "null"
    | .bool b => w.ofString (if b then "true" else "false")
    | .number x => if x.isFinite then .more (w.add (numberText x)) else w.ofString "null"
    | .text u => .more (w.add (quote u))
    | _ => .mistake (.type "cannot serialize bigint to JSON")
  match v with
  | .undefined | .symbol _ _ => nothing
  | .object o =>
    let x := r.obj o
    if x.isCallable then nothing
    else
      match x.kind with
      | .boxed v => scalar v
      | _ => enter r (w.lead key place) o
  | v => scalar v

/-- The method by which a value says what is to be written in its stead. -/
def replacement (r : Realm) (v : Value) : Option Value :=
  match v with
  | .object o =>
    let f := r.peek o "toJSON"
    if r.isCallable f then some f else none
  | _ => none

def step (r : Realm) (w : Writing) : WriteTurn :=
  match w.steps with
  | [] => .done (.text w.text.reverse)
  | .property holder key place :: rest =>
    let w := { w with steps := rest }
    match r.find holder key with
    | some ⟨.accessor getter _, _, _⟩ =>
      if r.isCallable getter then .call w key place false getter (.object holder) []
      else .more { w with steps := .value .undefined key place :: rest }
    | some p => .more { w with steps := .value p.value key place :: rest }
    | none => .more { w with steps := .value .undefined key place :: rest }
  | .value v key place :: rest =>
    match replacement r v with
    | some f => .call { w with steps := rest } key place true f v [.text key]
    | none => .more { w with steps := .plain v key place :: rest }
  | .plain v key place :: rest => plain r { w with steps := rest } v key place
  | .close u :: rest =>
    let filled := (w.around.head?.map Prod.snd).getD false
    let w := { w with steps := rest, around := w.around.drop 1 }
    .more ((if filled then w.newline else w).add [u])

end Writing

end ScriptSandbox.Guest
