import ScriptSandbox.Guest.Task

/-!
# Globals of a guest

What the host does with the global object of a realm: it defines properties there, assigns to them
as scripts do, and reads them.
-/

namespace ScriptSandbox.Guest

def Mistake.display (e : Mistake) : String := e.kind.name ++ ": " ++ e.message

namespace Realm

/-- Defines a global. -/
def defineGlobal (r : Realm) (name : String) (p : Property) : Except Mistake Realm :=
  let key := Units.ofString name
  match r.define globalId key (.ofProperty p) with
  | some r => .ok r
  | none => .error (.notDefinable key)

/-- Deletes a global, where that is possible. -/
def dropGlobal (r : Realm) (name : String) : Realm :=
  (r.remove globalId (Units.ofString name)).getD r

/-- A function of the host. -/
def makeHost (r : Realm) (f : HostId) (name : String) (arity : Nat) (constructs : Bool) :
    Value × Realm :=
  let (o, r) := r.alloc
    { kind := .host f constructs
      proto := some Intrinsic.functionProto.id
      props := functionProps (Units.ofString name) arity }
  (.object o, r)

end Realm

/-- Assigns to a global, as a strict script does. -/
def setGlobal (name : String) (value : Json) : GuestAction (Except Failure Unit) := do
  let start (r : Realm) : Machine :=
    let (v, realm) := r.bringIn value
    let m : Machine := { realm, control := .give .undefined }
    m.putProperty true Intrinsic.global.value (Units.ofString name) v
  match ← GuestAction.run start with
  | .thrown e => return .error (guestFailure ((← get).display e))
  | _ => return .ok ()

/-- Reads a global, if there is one of this name. -/
def getGlobal (name : String) : GuestAction (Except Failure (Option Json)) := do
  let key := Units.ofString name
  if ((← get).find Realm.globalId key).isNone then return .ok none
  let start (realm : Realm) : Machine :=
    let m : Machine := { realm, control := .give .undefined }
    m.getProperty Intrinsic.global.value key
  match ← GuestAction.run start with
  | .thrown e => return .error (guestFailure ((← get).display e))
  | .json j => return .ok (some j)
  | .value v => return (← exported v).map some

end ScriptSandbox.Guest
