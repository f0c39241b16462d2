import ScriptSandbox.Proofs.Guest.Globals
import ScriptSandbox.Sandbox.Basic

/-!
# What the host binds

Whatever the settings, a sandbox begins with a realm in which no script has run
(`Sandbox.unscripted_of_create`): each function of the host is bound under a name that stands for
nothing that the guest itself relies on.
-/

namespace ScriptSandbox

open Guest

/-- Names under which the host binds nothing. -/
def reservedNames : List String := ["JSON", "toJSON", "undefined", "NaN", "Infinity"]

namespace Guest.Realm

variable {r r' : Realm} {name : String} {v : Value} {e : Bool}

/-- The names of the globals that cannot be assigned to. -/
def constantNames : List String := ["undefined", "NaN", "Infinity"]

theorem mem_constants_iff :
    Units.ofString name ∈ constants.map Prod.fst ↔ name ∈ constantNames := by
  have hconstants : constants.map Prod.fst = constantNames.map Units.ofString := rfl
  rw [hconstants, List.mem_map_of_injective Units.ofString_injective]

/-- What is bound under a name that is free to be bound makes no difference. -/
theorem Unscripted.defineGlobal (h : r.Unscripted) (hname : name ∉ reservedNames)
    (hf : r.Fits (Units.ofString name) v e)
    (hd : r.defineGlobal name ⟨.data v true, e, true⟩ = .ok r') : r'.Unscripted := by
  rw [eq_of_defineGlobal hd]
  refine h.put ?_ ?_ hf true
  · rintro rfl
    exact hname (by decide)
  · rw [mem_constants_iff]
    exact fun hmem => hname (by simp_all [constantNames, reservedNames])

theorem grown_makeHost (r : Realm) (f : HostId) (name : String) (arity : Nat) (constructs : Bool) :
    Grown r (r.makeHost f name arity constructs).2 := grown_alloc _ _

/-- A function of the host can stand in a global. -/
theorem fits_makeHost (r : Realm) (f : HostId) {name : String} (arity : Nat) (constructs : Bool)
    (hname : name ∉ reservedNames) :
    (r.makeHost f name arity constructs).2.Fits (Units.ofString name)
      (r.makeHost f name arity constructs).1 false := by
  refine .function ?_ ?_
  · have hobj := obj_alloc r
      { kind := .host f constructs, proto := some Intrinsic.functionProto.id
        props := functionProps (Units.ofString name) arity }
    show ((r.makeHost f name arity constructs).2.obj r.objects.size).isCallable = true
    unfold makeHost
    rw [hobj]
    rfl
  · intro h
    obtain rfl : name = "toJSON" := Units.ofString_injective h
    exact hname (by decide)

end Guest.Realm

namespace HostSide

variable {h h' : HostSide} {r r' : Realm}

theorem unscripted_bindCallee (hr : r.Unscripted) {c : Callee} {name : String} {arity : Nat}
    (hname : name ∉ reservedNames) (hb : h.bindCallee r c name arity = (h', r', .ok ())) :
    r'.Unscripted := by
  have hgrown := Realm.grown_makeHost r (h.enlist c).1 name arity true
  have hfits := Realm.fits_makeHost r (h.enlist c).1 arity true hname
  unfold bindCallee at hb
  dsimp only at hb
  split at hb
  · rename_i r₁ hd
    obtain ⟨-, rfl⟩ : _ ∧ r₁ = r' := by simpa using hb
    exact (hr.of_grown hgrown).defineGlobal hname hfits hd
  · simp at hb

theorem name_not_reserved (f : HostFunction) : f.name ∉ reservedNames := by
  cases f with
  | console level => cases level <;> decide
  | _ => decide

theorem unscripted_bindFunctions (hr : r.Unscripted) {fs : List HostFunction}
    (hb : h.bindFunctions r fs = (h', r', .ok ())) : r'.Unscripted := by
  induction fs generalizing h r with
  | nil =>
    obtain ⟨-, rfl⟩ : _ ∧ r = r' := by simpa [bindFunctions] using hb
    exact hr
  | cons f fs ih =>
    unfold bindFunctions at hb
    split at hb
    · rename_i hone
      exact ih (unscripted_bindCallee hr (name_not_reserved f) hone) hb
    · rename_i hone
      exact absurd hb (hone _ _)

/-- The methods of an object are new functions, hidden under their names. -/
theorem makeMethods_spec (cs : List (Callee × String × Nat)) :
    Realm.Grown r (h.makeMethods r cs).2.1 ∧
      ∀ p ∈ (h.makeMethods r cs).2.2, p.2.enumerable = false ∧
        ∃ c ∈ cs, p.1 = Units.ofString c.2.1 := by
  induction cs generalizing h r with
  | nil => exact ⟨.refl r, by simp [makeMethods]⟩
  | cons c cs ih =>
    obtain ⟨c, name, arity⟩ := c
    obtain ⟨hgrown, hprops⟩ := ih (h := (h.enlist c).2)
      (r := (r.makeHost (h.enlist c).1 name arity false).2)
    refine ⟨(Realm.grown_makeHost ..).trans hgrown, fun p hp => ?_⟩
    rcases List.mem_cons.1 hp with rfl | hp
    · exact ⟨rfl, _, List.mem_cons_self, rfl⟩
    · obtain ⟨henumerable, c', hc', hname⟩ := hprops p hp
      exact ⟨henumerable, c', List.mem_cons_of_mem _ hc', hname⟩

theorem unscripted_bindConsole (hr : r.Unscripted) {fs : List HostFunction}
    (hb : h.bindConsole r fs = (h', r', .ok ())) : r'.Unscripted := by
  obtain ⟨hgrown, hprops⟩ := makeMethods_spec (h := h) (r := r)
    (fs.map fun f => (.function f, f.name, f.arity))
  unfold bindConsole at hb
  generalize h.makeMethods r (fs.map fun f => (.function f, f.name, f.arity)) = made
    at hb hgrown hprops
  obtain ⟨h₁, r₁, props⟩ := made
  dsimp only at hb hgrown hprops
  have hr₁ := hr.of_grown hgrown
  have hbare : (r₁.alloc { proto := some Intrinsic.objectProto.id, props }).2.IsBare
      r₁.objects.size := by
    have hobj := Realm.obj_alloc r₁ { proto := some Intrinsic.objectProto.id, props }
    refine ⟨Nat.ne_of_gt hr₁.global_lt, ?_, ?_, ?_, ?_, ?_⟩
    · rw [Realm.size_alloc]
      exact Nat.lt_succ_self _
    · rw [hobj]
    · rw [hobj]
    · rw [hobj]
      exact fun p hp => (hprops p hp).1
    · rw [hobj, Obj.own_of_plain rfl]
      cases hlookup : props.lookup Realm.toJsonKey with
      | none => rfl
      | some q =>
        obtain ⟨-, c, hc, hname⟩ := hprops _ (mem_of_lookup hlookup)
        obtain ⟨f, -, rfl⟩ := List.mem_map.1 hc
        obtain hname : "toJSON" = f.name := Units.ofString_injective hname
        exact absurd (hname ▸ by decide) (name_not_reserved f)
  split at hb
  · rename_i r₂ hd
    obtain ⟨-, rfl⟩ : _ ∧ r₂ = r' := by simpa using hb
    exact (hr₁.of_grown (Realm.grown_alloc _ _)).defineGlobal (by decide) (.bare hbare true) hd
  · simp at hb

theorem eq_of_map {α β ε : Type} {f : α → β} {b : β} {x : HostSide × Realm × Except ε α}
    (hx : (x.1, x.2.1, x.2.2.map f) = (h', r', .ok b)) : ∃ a, x = (h', r', .ok a) := by
  obtain ⟨h₁, r₁, result⟩ := x
  cases result with
  | ok a =>
    obtain ⟨rfl, rfl, -⟩ : h₁ = h' ∧ r₁ = r' ∧ f a = b := by simpa [Except.map] using hx
    exact ⟨a, rfl⟩
  | error e => simp [Except.map] at hx

theorem unscripted_install (hr : r.Unscripted) {g : Group} {n : Nat}
    (hi : h.install r g = (h', r', .ok n)) : r'.Unscripted := by
  have hfunctions : ∀ (fs : List HostFunction) (count : Nat), ((h.bindFunctions r fs).1,
      (h.bindFunctions r fs).2.1, (h.bindFunctions r fs).2.2.map fun _ => count) = (h', r', .ok n) →
      r'.Unscripted := by
    intro fs count hx
    obtain ⟨u, hone⟩ := eq_of_map hx
    exact unscripted_bindFunctions hr hone
  unfold install at hi
  cases g with
  | logging =>
    obtain ⟨u, hone⟩ := eq_of_map (x := h.bindConsole r Group.logging.functions) hi
    exact unscripted_bindConsole hr hone
  | system => exact hfunctions Group.system.functions _ hi
  | utilities => exact hfunctions Group.utilities.functions _ hi
  | feature f =>
    cases f with
    | browser =>
      dsimp only at hi
      split at hi
      · obtain ⟨u, hone⟩ := eq_of_map (x := h.bindCallee r .newSession "newBrowserSession" 1) hi
        exact unscripted_bindCallee hr (by decide) hone
      · obtain ⟨-, rfl, -⟩ : _ ∧ r = r' ∧ _ := by simpa using hi
        exact hr
    | filesystem => exact hfunctions (Group.feature .filesystem).functions _ hi
    | http => exact hfunctions (Group.feature .http).functions _ hi
    | documents => exact hfunctions (Group.feature .documents).functions _ hi
    | images => exact hfunctions (Group.feature .images).functions _ hi

theorem unscripted_installEach (hr : r.Unscripted) {gs : List Group}
    (hi : h.installEach r gs = (h', r', .ok ())) : r'.Unscripted := by
  induction gs generalizing h r with
  | nil =>
    obtain ⟨-, rfl⟩ : _ ∧ r = r' := by simpa [installEach] using hi
    exact hr
  | cons g gs ih =>
    unfold installEach at hi
    split at hi
    · rename_i hone
      exact ih (unscripted_install hr hone) hi
    · simp at hi

theorem unscripted_installAll (hr : r.Unscripted) {groups : List String}
    (hi : h.installAll r = (h', r', .ok groups)) : r'.Unscripted := by
  obtain ⟨u, heach⟩ := eq_of_map (x := h.installEach r h.groups) hi
  exact unscripted_installEach hr heach

end HostSide

/-- No script has run in a sandbox that has just been made. -/
theorem Sandbox.unscripted_of_create {canRun : Bool} {settings : Settings}
    {surroundings : Surroundings} {rehearsal : Rehearsal} {s : Sandbox}
    (h : create canRun settings surroundings rehearsal = .ok s) : s.worker.realm.Unscripted := by
  unfold create at h
  split at h
  · simp at h
  · generalize surroundings.chance.identifier = drawn at h
    obtain ⟨id, chance⟩ := drawn
    dsimp only at h
    split at h
    · simp at h
    · rename_i host realm groups hall
      obtain rfl : _ = s := by simpa using h
      exact HostSide.unscripted_installAll Realm.unscripted_fresh hall

end ScriptSandbox
