import Mathlib.Data.List.Basic
import ScriptSandbox.Guest.Global

/-!
# Objects and their properties

What is found of an object after one of its properties has been put in place or taken away. A name
that is no index and not the length of something stands in the list of properties, whatever the kind
of the object (`Named`).
-/

namespace ScriptSandbox.Guest

variable {key k : Units} {p q : Property} {props : List (Units × Property)} {x y : Obj}

/-! ## Lists of properties -/

theorem lookup_putProperty (key k : Units) (p : Property) (props : List (Units × Property)) :
    (putProperty key p props).lookup k = if k = key then some p else props.lookup k := by
  induction props with
  | nil =>
    by_cases h : k = key
    · simp [putProperty, h]
    · simp [putProperty, List.lookup_cons, beq_false_of_ne h, h]
  | cons a props ih =>
    obtain ⟨other, old⟩ := a
    unfold putProperty
    by_cases ho : other = key
    · subst ho
      rw [if_pos rfl, List.lookup_cons, List.lookup_cons]
      by_cases h : k = other
      · simp [h]
      · simp [beq_false_of_ne h, h]
    · rw [if_neg ho, List.lookup_cons, List.lookup_cons, ih]
      by_cases h : k = key
      · have hne : (k == other) = false := beq_false_of_ne fun e => ho (e.symm.trans h)
        simp [h, h ▸ hne]
      · simp [h]

theorem lookup_dropProperty (key k : Units) (props : List (Units × Property)) :
    (dropProperty key props).lookup k = if k = key then none else props.lookup k := by
  induction props with
  | nil => simp [dropProperty]
  | cons a props ih =>
    obtain ⟨other, old⟩ := a
    unfold dropProperty at ih ⊢
    by_cases ho : other = key
    · subst ho
      rw [List.filter_cons_of_neg (by simp), ih, List.lookup_cons]
      by_cases h : k = other
      · simp [h]
      · simp [beq_false_of_ne h, h]
    · rw [List.filter_cons_of_pos (by simpa using ho), List.lookup_cons, List.lookup_cons, ih]
      by_cases h : k = key
      · have hne : (k == other) = false := beq_false_of_ne fun e => ho (e.symm.trans h)
        simp [h, h ▸ hne]
      · simp [h]

theorem mem_of_lookup (h : props.lookup key = some p) : (key, p) ∈ props := by
  obtain ⟨before, behind, rfl, -⟩ := List.lookup_eq_some_iff.1 h
  exact List.mem_append_right _ List.mem_cons_self

/-- Where each name stands once, a property is found under its name. -/
theorem lookup_of_mem (hn : (props.map Prod.fst).Nodup) (h : (key, p) ∈ props) :
    props.lookup key = some p := by
  induction props with
  | nil => cases h
  | cons a props ih =>
    obtain ⟨ha, hrest⟩ := List.nodup_cons.1 hn
    rw [List.lookup_cons]
    rcases List.mem_cons.1 h with rfl | h
    · simp
    · have hne : key ≠ a.1 := fun e => ha (e ▸ List.mem_map_of_mem h)
      rw [beq_false_of_ne hne]
      exact ih hrest h

/-- A name that was there stays in its place, and a new one comes last. -/
theorem map_fst_putProperty (key : Units) (p : Property) (props : List (Units × Property)) :
    (putProperty key p props).map Prod.fst =
      if key ∈ props.map Prod.fst then props.map Prod.fst else props.map Prod.fst ++ [key] := by
  induction props with
  | nil => rfl
  | cons a props ih =>
    obtain ⟨other, old⟩ := a
    unfold putProperty
    by_cases ho : other = key
    · subst ho
      simp
    · rw [if_neg ho, List.map_cons, ih]
      by_cases hmem : key ∈ props.map Prod.fst
      · simp [hmem]
      · rw [if_neg hmem, if_neg (by simp [Ne.symm ho, hmem])]
        rfl

/-- A property that is not there is not taken away. -/
theorem dropProperty_of_lookup_none (h : props.lookup key = none) :
    dropProperty key props = props := by
  refine List.filter_eq_self.2 fun a ha => ?_
  have hne : key ≠ a.1 := by
    rintro rfl
    have hmem := List.lookup_eq_none_iff.1 h a ha
    simp at hmem
  simpa using Ne.symm hne

/-- A property that is taken away again leaves nothing. -/
theorem dropProperty_putProperty (key : Units) (p : Property) (props : List (Units × Property)) :
    dropProperty key (putProperty key p props) = dropProperty key props := by
  induction props with
  | nil => simp [putProperty, dropProperty]
  | cons a props ih =>
    obtain ⟨other, old⟩ := a
    unfold putProperty
    unfold dropProperty at ih ⊢
    by_cases ho : other = key
    · rw [if_pos ho, List.filter_cons_of_neg (by simp), List.filter_cons_of_neg (by simp [ho])]
    · rw [if_neg ho, List.filter_cons_of_pos (by simpa using ho),
        List.filter_cons_of_pos (by simpa using ho), ih]

/-- The object without a property of this name in its list. -/
def Obj.without (x : Obj) (key : Units) : Obj := { x with props := dropProperty key x.props }

/-- Without one property, all others are there. -/
theorem Obj.own_eq_of_without (h : x.without key = y.without key) (hk : k ≠ key) :
    x.own k = y.own k := by
  have hkind : (x.without key).kind = (y.without key).kind := by rw [h]
  have hprops : (x.without key).props.lookup k = (y.without key).props.lookup k := by rw [h]
  simp only [without, lookup_dropProperty, if_neg hk] at hkind hprops
  unfold own special
  rw [hkind, hprops]

theorem Obj.own_of_plain (h : x.kind = .plain) (key : Units) : x.own key = x.props.lookup key := by
  unfold own special
  rw [h]
  rfl

theorem Obj.put_of_plain (h : x.kind = .plain) (key : Units) (p : Property) :
    x.put key p = { x with props := putProperty key p x.props } := by
  unfold put
  rw [h]

/-! ## Names -/

/-- A name that is no index and not the length of something. -/
structure Named (key : Units) : Prop where
  ne_length : key ≠ lengthKey
  noNatural : naturalOf? key = none

namespace Named

theorem indexOf? (h : Named key) : Guest.indexOf? key = none := by
  rw [Guest.indexOf?, h.noNatural]
  rfl

theorem special (h : Named key) (x : Obj) : x.special key = none := by
  unfold Obj.special
  split
  · rw [if_neg h.ne_length, h.noNatural]
  · rw [if_neg h.ne_length, h.indexOf?]
  · rfl

theorem own (h : Named key) (x : Obj) : x.own key = x.props.lookup key := by
  rw [Obj.own, h.special]
  rfl

theorem put (h : Named key) (x : Obj) (p : Property) :
    x.put key p = { x with props := putProperty key p x.props } := by
  unfold Obj.put
  dsimp only
  split
  · rw [if_neg h.ne_length, h.indexOf?]
  · rfl

theorem remove (h : Named key) (x : Obj) (hp : ∀ p, x.own key = some p → p.configurable = true) :
    x.remove key = some (x.without key) := by
  unfold Obj.remove Obj.without
  split
  · rename_i hnone
    rw [h.own] at hnone
    rw [dropProperty_of_lookup_none hnone]
  · rename_i p hp'
    rw [if_neg (by simp [hp p hp']), h.indexOf?]
    split
    · rename_i hnone
      cases hnone
    · rfl

end Named

/-! ## Definitions -/

namespace PropertyChange

@[simp] theorem fresh_ofProperty (p : Property) : (ofProperty p).fresh = p := by
  obtain ⟨slot, e, c⟩ := p
  cases slot <;> rfl

@[simp] theorem change_ofProperty (p q : Property) : (ofProperty p).change q = p := by
  obtain ⟨slot, e, c⟩ := p
  obtain ⟨old, e', c'⟩ := q
  cases slot <;> cases old <;> rfl

end PropertyChange

/-- A definition that is complete puts its property in place. -/
theorem Obj.define_ofProperty (h : x.define key (.ofProperty p) = some y) : y = x.put key p := by
  unfold define at h
  split at h
  · split at h
    · simpa using (Option.some.inj h).symm
    · simp at h
  · split at h
    · simpa using (Option.some.inj h).symm
    · simp at h

/-! ## Realms -/

namespace Realm

variable {r r' : Realm} {o i : ObjId}

theorem obj_setObj_self (ho : o < r.objects.size) (x : Obj) : (r.setObj o x).obj o = x := by
  simp [setObj, obj, Array.getD_eq_getD_getElem?, ho]

theorem obj_setObj_of_ne (h : i ≠ o) (x : Obj) : (r.setObj o x).obj i = r.obj i := by
  simp [setObj, obj, Array.getD_eq_getD_getElem?, Array.getElem?_setIfInBounds_ne (Ne.symm h)]

theorem size_setObj (o : ObjId) (x : Obj) : (r.setObj o x).objects.size = r.objects.size := by
  simp [setObj]

/-- Where there is no such object, nothing is set. -/
theorem setObj_of_size_le (h : r.objects.size ≤ o) (x : Obj) : r.setObj o x = r := by
  simp [setObj, Array.setIfInBounds_eq_of_size_le h]

theorem obj_of_size_le (h : r.objects.size ≤ o) : r.obj o = default := by
  simp [obj, Array.getD_eq_getD_getElem?, Array.getElem?_eq_none h]

/-- All objects but the global one are as they were. -/
structure KeepsOthers (r r' : Realm) : Prop where
  size_le : r.objects.size ≤ r'.objects.size
  obj_eq : ∀ o < r.objects.size, o ≠ globalId → r'.obj o = r.obj o

theorem KeepsOthers.trans {r'' : Realm} (h : KeepsOthers r r') (h' : KeepsOthers r' r'') :
    KeepsOthers r r'' :=
  ⟨Nat.le_trans h.size_le h'.size_le, fun o ho hne =>
    (h'.obj_eq o (Nat.lt_of_lt_of_le ho h.size_le) hne).trans (h.obj_eq o ho hne)⟩

theorem keepsOthers_put (r : Realm) (key : Units) (p : Property) :
    KeepsOthers r (r.put globalId key p) :=
  ⟨Nat.le_of_eq (size_setObj ..).symm, fun _ _ hne => obj_setObj_of_ne hne _⟩

/-- A global that is defined is put in place. -/
theorem eq_of_defineGlobal {name : String} (h : r.defineGlobal name p = .ok r') :
    r' = r.put globalId (Units.ofString name) p := by
  unfold defineGlobal define at h
  dsimp only at h
  cases hx : (r.obj globalId).define (Units.ofString name) (.ofProperty p) with
  | none => simp [hx] at h
  | some x =>
    obtain rfl := Obj.define_ofProperty hx
    rw [hx] at h
    exact (Except.ok.inj h).symm

/-- A global that is not defined is there already and stays, or there is no room for it. -/
theorem configurable_of_defineGlobal {name : String} {e : Mistake}
    (h : r.defineGlobal name p = .error e)
    (hq : (r.obj globalId).own (Units.ofString name) = some q) : q.configurable = false := by
  unfold defineGlobal define Obj.define at h
  dsimp only at h
  rw [hq] at h
  dsimp only at h
  split at h
  · simp at h
  · rename_i hnone
    split at hnone
    · simp at hnone
    · rename_i hallowed
      unfold PropertyChange.allowed at hallowed
      cases hc : q.configurable with
      | false => rfl
      | true => simp [hc] at hallowed

/-- A new global finds its place where there is room for any. -/
theorem defineGlobal_of_extensible {name : String}
    (hnone : (r.obj globalId).own (Units.ofString name) = none)
    (hext : (r.obj globalId).extensible = true) (p : Property) :
    r.defineGlobal name p = .ok (r.put globalId (Units.ofString name) p) := by
  unfold defineGlobal define Obj.define
  dsimp only
  rw [hnone]
  dsimp only
  rw [if_pos hext, PropertyChange.fresh_ofProperty]
  rfl

/-- All that was there is as it was, but for one global. -/
structure KeepsAllBut (key : Units) (r r' : Realm) : Prop where
  size_le : r.objects.size ≤ r'.objects.size
  objects : ∀ o < r.objects.size, o ≠ globalId → r'.obj o = r.obj o
  global : (r'.obj globalId).without key = (r.obj globalId).without key
  scopes : r'.scopes = r.scopes
  microtasks : r'.microtasks = r.microtasks
  symbols : r'.symbols = r.symbols

theorem KeepsAllBut.own (h : KeepsAllBut key r r') (hk : k ≠ key) :
    (r'.obj globalId).own k = (r.obj globalId).own k := Obj.own_eq_of_without h.global hk

/-- A global that can be deleted is taken away, and nothing else. -/
theorem dropGlobal_eq {name : String} (hn : Named (Units.ofString name))
    (hp : ∀ p, (r.obj globalId).own (Units.ofString name) = some p → p.configurable = true) :
    r.dropGlobal name = r.setObj globalId ((r.obj globalId).without (Units.ofString name)) := by
  unfold dropGlobal Realm.remove
  rw [hn.remove _ hp]
  rfl

/-- A global that can be deleted is gone, and all else is there. -/
theorem keepsAllBut_dropGlobal {name : String} (hn : Named (Units.ofString name))
    (hp : ∀ p, (r.obj globalId).own (Units.ofString name) = some p → p.configurable = true) :
    ((r.dropGlobal name).obj globalId).own (Units.ofString name) = none ∧
      r.KeepsAllBut (Units.ofString name) (r.dropGlobal name) := by
  rw [dropGlobal_eq hn hp]
  have hself : ∀ x : Obj, (x.without (Units.ofString name)).own (Units.ofString name) = none := by
    intro x
    rw [hn.own]
    exact (lookup_dropProperty ..).trans (if_pos rfl)
  have htwice : ∀ x : Obj, (x.without (Units.ofString name)).without (Units.ofString name) =
      x.without (Units.ofString name) := by
    intro x
    show { x with props := dropProperty _ (dropProperty _ x.props) } = _
    rw [dropProperty_of_lookup_none ((lookup_dropProperty ..).trans (if_pos rfl))]
    rfl
  by_cases hsize : globalId < r.objects.size
  · have hobj := obj_setObj_self hsize ((r.obj globalId).without (Units.ofString name))
    refine ⟨by rw [hobj, hself], ?_⟩
    exact
      { size_le := Nat.le_of_eq (size_setObj ..).symm
        objects := fun o _ ho => obj_setObj_of_ne ho _
        global := by rw [hobj, htwice]
        scopes := rfl
        microtasks := rfl
        symbols := rfl }
  · have hle : r.objects.size ≤ globalId := Nat.le_of_not_lt hsize
    rw [setObj_of_size_le hle]
    refine ⟨?_, ⟨Nat.le_refl _, fun _ _ _ => rfl, rfl, rfl, rfl, rfl⟩⟩
    rw [hn.own, obj_of_size_le hle]
    rfl

end Realm

end ScriptSandbox.Guest
