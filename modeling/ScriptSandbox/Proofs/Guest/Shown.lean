import Mathlib.Data.List.Nodup
import ScriptSandbox.Proofs.Guest.Held
import ScriptSandbox.Proofs.Guest.Store
import ScriptSandbox.Proofs.Guest.Written
import ScriptSandbox.Proofs.Json.Ordered
import ScriptSandbox.Proofs.Json.ReadBack

/-!
# What values that stand for JSON values show

Written by the guest, a value that stands for a JSON value becomes a text that is read back as it
(`Realm.Holds.travels`). The text takes no more steps than there are objects and parts of objects,
three times over (`Realm.extentBelow`).
-/

namespace ScriptSandbox.Guest

variable {r : Realm} {v : Value} {o lo hi : ObjId}

/-! ## Indices -/

theorem digitsIn_decimalDigits (n : Nat) : digitsIn 10 (decimalDigits n) = some n := by
  have hdigits : ∀ c ∈ decimalDigits n, c.isDigit = true :=
    fun c hc => Nat.isDigit_of_mem_toDigits (by decide) (by decide) hc
  have hvalue : ∀ cs : List Char, (∀ c ∈ cs, c.isDigit = true) → ∀ m,
      cs.foldl (fun n c => n * 10 + digitValue c) m = Nat.ofDigitChars 10 cs m := by
    intro cs hcs
    induction cs with
    | nil => exact fun m => rfl
    | cons c cs ih =>
      intro m
      have hc : digitValue c = c.toNat - '0'.toNat := if_pos (hcs c List.mem_cons_self)
      rw [List.foldl_cons, Nat.ofDigitChars_cons, ih (fun c h => hcs c (List.mem_cons_of_mem _ h)), hc,
        Nat.mul_comm m]
  have hany : (decimalDigits n).any (10 ≤ digitValue ·) = false := by
    rw [List.any_eq_false]
    intro c hc
    have hrange := Json.toNat_of_isDigit (hdigits c hc)
    rw [show digitValue c = c.toNat - 48 from if_pos (hdigits c hc), decide_eq_true_eq]
    omega
  have hempty : (decimalDigits n).isEmpty = false := by
    rw [List.isEmpty_eq_false_iff]
    exact Nat.toDigits_ne_nil
  unfold digitsIn
  rw [hempty, hany, Bool.or_false, if_neg Bool.false_ne_true, hvalue _ hdigits]
  exact congrArg some (Nat.ofDigitChars_toDigits (by decide) (by decide))

theorem naturalOf?_indexKey (i : Nat) : naturalOf? (indexKey i) = some i := by
  unfold naturalOf? indexKey
  rw [Units.chars_ofChars]
  by_cases hi : i = 0
  · subst hi
    rfl
  · obtain ⟨c, cs, hdigits, -, hzero⟩ := Json.decimalDigits_head hi
    have hvalue := digitsIn_decimalDigits i
    rw [hdigits] at hvalue ⊢
    split
    · rename_i h
      cases h
    · rename_i h
      exact absurd (List.cons.inj h).1 hzero
    · exact hvalue

theorem indexKey_ne_lengthKey (i : Nat) : indexKey i ≠ lengthKey := by
  intro h
  have hindex := naturalOf?_indexKey i
  rw [h, show naturalOf? lengthKey = none by decide] at hindex
  cases hindex

theorem special_of_array {x : Obj} {vs : List Value} (hkind : x.kind = .array (vs.map some).toArray)
    (i : Nat) : x.special (indexKey i) = vs[i]?.map Property.plain := by
  unfold Obj.special
  rw [hkind]
  dsimp only
  rw [if_neg (indexKey_ne_lengthKey i), naturalOf?_indexKey]
  simp only [List.getElem?_toArray, List.getElem?_map]
  cases vs[i]? <;> rfl

/-- The items of an array are found under their indices. -/
theorem Realm.find_item {vs : List Value} (hkind : (r.obj o).kind = .array (vs.map some).toArray)
    {i : Nat} (hv : vs[i]? = some v) : r.find o (indexKey i) = some (.plain v) := by
  refine Realm.find_of_own ?_
  rw [Obj.own, special_of_array hkind, hv]
  rfl

namespace Realm

/-! ## What is there from the start -/

/-- All that is there from the start, but for the global object, is as it was. -/
abbrev Standard (r : Realm) : Prop := KeepsOthers fresh r

theorem Grown.keepsOthers {r' : Realm} (h : Grown r r') : KeepsOthers r r' :=
  ⟨h.size_le, fun _ ho _ => h.obj ho⟩

/-- The name of the method by which a value says what is to be written in its stead. -/
def toJsonKey : Units := Units.ofString "toJSON"

theorem findFrom_of_own {key : Units} {p : Property} {n : Nat} (h : (r.obj o).own key = some p) :
    r.findFrom key (n + 1) o = some p := by
  rw [findFrom, h]

theorem findFrom_of_proto {key : Units} {parent : ObjId} {n : Nat} (hown : (r.obj o).own key = none)
    (hproto : (r.obj o).proto = some parent) : r.findFrom key (n + 1) o = r.findFrom key n parent := by
  rw [findFrom, hown, hproto]

theorem findFrom_of_last {key : Units} {n : Nat} (hown : (r.obj o).own key = none)
    (hproto : (r.obj o).proto = none) : r.findFrom key n o = none := by
  cases n with
  | zero => rfl
  | succ n => rw [findFrom, hown, hproto]

namespace Standard

theorem objectProto (hs : r.Standard) :
    r.obj Intrinsic.objectProto.id = fresh.obj Intrinsic.objectProto.id :=
  hs.obj_eq _ (by decide +kernel) (by decide)

theorem arrayProto (hs : r.Standard) :
    r.obj Intrinsic.arrayProto.id = fresh.obj Intrinsic.arrayProto.id :=
  hs.obj_eq _ (by decide +kernel) (by decide)

/-- Where an object has no such property, neither have the prototypes of objects. -/
theorem find_of_objectProto (hs : r.Standard) {key : Units} (hown : (r.obj o).own key = none)
    (hproto : (r.obj o).proto = some Intrinsic.objectProto.id) :
    r.find o key = (fresh.obj Intrinsic.objectProto.id).own key := by
  have hsize : 0 < fresh.objects.size := by decide +kernel
  obtain ⟨n, hn⟩ : ∃ n, r.objects.size = n + 1 := ⟨r.objects.size - 1, by have := hs.size_le; omega⟩
  have hlast : (r.obj Intrinsic.objectProto.id).proto = none := by
    rw [hs.objectProto]
    decide +kernel
  rw [find, hn, findFrom_of_proto hown hproto]
  cases h : (r.obj Intrinsic.objectProto.id).own key with
  | none => rw [findFrom_of_last h hlast, ← hs.objectProto, h]
  | some p => rw [findFrom_of_own h, ← hs.objectProto, h]

end Standard

/-! ## Nothing is written in the stead of a held value -/

/-- A value that stands for a JSON value is no function. -/
theorem Holds.notCallable {j : Json} (h : r.Holds j lo hi v) : r.isCallable v = false := by
  cases j with
  | null | bool | num | str =>
    simp only [Holds] at h
    rw [h.1]
    rfl
  | arr =>
    simp only [Holds] at h
    obtain ⟨o, vs, rfl, -, ho, -⟩ := h
    simp only [isCallable, ho, Obj.isCallable, arrayOf]
  | obj =>
    simp only [Holds] at h
    obtain ⟨o, props, rfl, -, ho, -⟩ := h
    simp only [isCallable, ho, Obj.isCallable]

theorem replacement_of_notCallable
    (h : ∀ p, r.find o toJsonKey = some p → r.isCallable p.value = false) :
    Writing.replacement r (.object o) = none := by
  have hpeek : r.isCallable (r.peek o "toJSON") = false := by
    unfold peek
    split
    · rename_i p hp
      exact h p hp
    · rfl
  unfold Writing.replacement
  dsimp only
  rw [hpeek]
  rfl

theorem find_toJson_of_none (hs : r.Standard) (hown : (r.obj o).own toJsonKey = none)
    (hproto : (r.obj o).proto = some Intrinsic.objectProto.id) : r.find o toJsonKey = none := by
  rw [hs.find_of_objectProto hown hproto]
  decide +kernel

theorem find_toJson_array (hs : r.Standard) {vs : List Value} (ho : r.obj o = arrayOf (vs.map some)) :
    r.find o toJsonKey = none := by
  have hown : (r.obj o).own toJsonKey = none := by
    have hname : toJsonKey ≠ lengthKey := by decide
    have hnatural : naturalOf? toJsonKey = none := by decide
    rw [ho]
    simp only [Obj.own, Obj.special, arrayOf, hname, hnatural, if_false]
    rfl
  have harray : (r.obj Intrinsic.arrayProto.id).own toJsonKey = none := by
    rw [hs.arrayProto]
    decide +kernel
  have hproto : (r.obj Intrinsic.arrayProto.id).proto = some Intrinsic.objectProto.id := by
    rw [hs.arrayProto]
    decide +kernel
  have hsize : 1 < fresh.objects.size := by decide +kernel
  obtain ⟨n, hn⟩ : ∃ n, r.objects.size = n + 2 := ⟨r.objects.size - 2, by have := hs.size_le; omega⟩
  have hlast : (r.obj Intrinsic.objectProto.id).own toJsonKey = none := by
    rw [hs.objectProto]
    decide +kernel
  have hend : (r.obj Intrinsic.objectProto.id).proto = none := by
    rw [hs.objectProto]
    decide +kernel
  rw [find, hn, findFrom_of_proto hown (by rw [ho]; rfl), findFrom_of_proto harray hproto,
    findFrom_of_last hlast hend]

/-! ## How much there is -/

/-- How many objects, properties and items there are below a number. -/
def extentBelow (r : Realm) : Nat → Nat
  | 0 => 0
  | n + 1 => r.extentBelow n + (r.obj n).extent

theorem extentBelow_le (r : Realm) {n : Nat} (hn : n ≤ r.objects.size) :
    r.extentBelow n ≤ r.extent := by
  have hsplit : r.extentBelow n +
      (r.objects.toList.drop n).foldr (fun x total => x.extent + total) 0 = r.extent := by
    induction n with
    | zero => exact Nat.zero_add _
    | succ n ih =>
      have hlt : n < r.objects.toList.length := by
        rw [Array.length_toList]
        exact hn
      have hobj : r.obj n = r.objects.toList[n] := by
        simp only [obj, Array.getD_eq_getD_getElem?, ← Array.getElem?_toList,
          List.getElem?_eq_getElem hlt, Option.getD_some]
      rw [← ih (Nat.le_of_succ_le hn), List.drop_eq_getElem_cons hlt, List.foldr_cons, extentBelow,
        hobj, Nat.add_assoc]
  exact hsplit ▸ Nat.le_add_right ..

/-! ## Values that travel -/

/-- A value is written as a text that is read back as the JSON value. The text takes no more steps than
there are objects and parts from one number up to another, three times over. -/
def Travels (r : Realm) (d : Nat) (j : Json) (lo hi : ObjId) (v : Value) : Prop :=
  ∃ k cost, Json.Reads d k j ∧ Writing.Shows r v (Units.ofString (Json.compact k)) cost lo hi ∧
    cost + 3 * r.extentBelow lo ≤ 3 * r.extentBelow hi + 2

open Writing (Part)

variable {d : Nat} {items : List Json} {fields : List (String × Json)} {vs : List Value}
variable {props : List (Units × Property)}

/-- A part travels, with numbers within these. -/
structure Sound (r : Realm) (d : Nat) (lo hi : ObjId) (p : Part) : Prop where
  reads : Json.Reads d p.written p.json
  shows : Writing.Shows r p.value (Units.ofString (Json.compact p.written)) p.cost p.lo p.hi
  notCallable : r.isCallable p.value = false
  lo_le : lo ≤ p.lo
  le_hi : p.hi ≤ hi

theorem Sound.mono {lo' hi' : ObjId} {p : Part} (h : r.Sound d lo hi p) (hlo : lo' ≤ lo)
    (hhi : hi ≤ hi') : r.Sound d lo' hi' p :=
  ⟨h.reads, h.shows, h.notCallable, Nat.le_trans hlo h.lo_le, Nat.le_trans h.le_hi hhi⟩

theorem sound_cons {mid : ObjId} {p : Part} {parts : List Part} (hp : r.Sound d lo mid p)
    (hlo : lo ≤ mid) (hhi : mid ≤ hi) (h : ∀ q ∈ parts, r.Sound d mid hi q) :
    ∀ q ∈ p :: parts, r.Sound d lo hi q :=
  List.forall_mem_cons.2 ⟨hp.mono (Nat.le_refl _) hhi, fun q hq => (h q hq).mono hlo (Nat.le_refl _)⟩

theorem HoldsItems.parts (ih : ∀ j ∈ items, ∀ lo hi v, r.Holds j lo hi v → r.Travels d j lo hi v)
    (start : Nat) (h : r.HoldsItems items lo hi vs) :
    ∃ parts : List Part, parts.map Part.value = vs ∧ parts.map Part.json = items ∧
      parts.map Part.key = (List.range' start items.length).map indexKey ∧
      (∀ p ∈ parts, r.Sound d lo hi p) ∧
      Part.costs parts + 3 * r.extentBelow lo ≤ 3 * r.extentBelow hi + 3 * items.length := by
  induction items generalizing start lo vs with
  | nil =>
    simp only [HoldsItems] at h
    obtain ⟨rfl, rfl⟩ := h
    exact ⟨[], rfl, rfl, rfl, by simp, by simp [Part.costs]⟩
  | cons j items ihitems =>
    simp only [HoldsItems] at h
    obtain ⟨v, rest, mid, rfl, hv, hrest⟩ := h
    obtain ⟨k, cost, hreads, hshows, hcost⟩ := ih j List.mem_cons_self lo mid v hv
    obtain ⟨parts, hvalues, hjsons, hkeys, hsound, hcosts⟩ :=
      ihitems (fun j hj => ih j (List.mem_cons_of_mem _ hj)) (start + 1) hrest
    let p : Part := ⟨String.ofList (decimalDigits start), v, j, k, cost, lo, mid⟩
    have hkey : p.key = indexKey start := by
      show Units.ofChars (String.ofList (decimalDigits start)).toList = _
      rw [String.toList_ofList]
      rfl
    refine ⟨p :: parts, congrArg (v :: ·) hvalues, congrArg (j :: ·) hjsons, ?_, ?_, ?_⟩
    · rw [List.map_cons, hkeys, hkey]
      rfl
    · exact sound_cons ⟨hreads, hshows, hv.notCallable, Nat.le_refl _, Nat.le_refl _⟩ hv.le
        hrest.le hsound
    · have hsum : Part.costs (p :: parts) = cost + 1 + Part.costs parts := rfl
      rw [hsum, List.length_cons]
      omega

theorem HoldsFields.parts
    (ih : ∀ f ∈ fields, ∀ lo hi v, r.Holds f.2 lo hi v → r.Travels d f.2 lo hi v)
    (h : r.HoldsFields fields lo hi props) :
    ∃ parts : List Part, parts.map (fun p => (p.key, Property.plain p.value)) = props ∧
      parts.map (fun p => (p.name, p.json)) = fields ∧ (∀ p ∈ parts, r.Sound d lo hi p) ∧
      Part.costs parts + 3 * r.extentBelow lo ≤ 3 * r.extentBelow hi + 3 * fields.length := by
  induction fields generalizing lo props with
  | nil =>
    simp only [HoldsFields] at h
    obtain ⟨rfl, rfl⟩ := h
    exact ⟨[], rfl, rfl, by simp, by simp [Part.costs]⟩
  | cons f fields ihfields =>
    obtain ⟨name, j⟩ := f
    simp only [HoldsFields] at h
    obtain ⟨v, rest, mid, rfl, hv, hrest⟩ := h
    obtain ⟨k, cost, hreads, hshows, hcost⟩ := ih (name, j) List.mem_cons_self lo mid v hv
    obtain ⟨parts, hprops, hfields, hsound, hcosts⟩ :=
      ihfields (fun f hf => ih f (List.mem_cons_of_mem _ hf)) hrest
    let p : Part := ⟨name, v, j, k, cost, lo, mid⟩
    refine ⟨p :: parts, congrArg (_ :: ·) hprops, congrArg (_ :: ·) hfields, ?_, ?_⟩
    · exact sound_cons ⟨hreads, hshows, hv.notCallable, Nat.le_refl _, Nat.le_refl _⟩ hv.le
        hrest.le hsound
    · have hsum : Part.costs (p :: parts) = cost + 1 + Part.costs parts := rfl
      rw [hsum, List.length_cons]
      omega

theorem travels_array (hs : r.Standard) (ih : ∀ j ∈ items, ∀ lo hi v, r.Holds j lo hi v →
    r.Travels d j lo hi v) (h : r.Holds (.arr items) lo hi v) :
    r.Travels (d + 1) (.arr items) lo hi v := by
  simp only [Holds] at h
  obtain ⟨o, vs, rfl, rfl, ho, hitems⟩ := h
  obtain ⟨parts, hvalues, hjsons, hkeys, hsound, hcosts⟩ := hitems.parts ih 0
  have hlength : vs.length = items.length := by
    rw [← hvalues, ← hjsons, List.length_map, List.length_map]
  have hin : ∀ p ∈ parts, p.In r o := by
    intro p hp
    obtain ⟨i, hi, hget⟩ := List.mem_iff_getElem.1 hp
    have hkey : p.key = indexKey i := by
      have : (parts.map Part.key)[i]? = ((List.range' 0 items.length).map indexKey)[i]? := by
        rw [hkeys]
      have hi' : i < items.length := by rwa [← hjsons, List.length_map]
      simpa [List.getElem?_eq_getElem hi, hget, List.getElem?_range' hi'] using this
    have hvalue : vs[i]? = some p.value := by
      rw [← hvalues, List.getElem?_map, List.getElem?_eq_getElem hi, hget, Option.map_some]
    have hfound : r.find o p.key = some (.plain p.value) :=
      hkey ▸ find_item (by rw [ho]; rfl) hvalue
    exact ⟨⟨true, true, true, hfound⟩, (hsound p hp).shows, .inr (hsound p hp).le_hi⟩
  have hsize : (List.range (vs.map some).toArray.size).map indexKey = parts.map Part.key := by
    rw [hkeys, List.size_toArray, List.length_map, hlength, List.range_eq_range']
  refine ⟨.arr (parts.map Part.written), Part.costs parts + 3, ?_, ?_, ?_⟩
  · have hall : List.Forall₂ (Json.Reads d) (parts.map Part.written) (parts.map Part.json) := by
      rw [List.forall₂_map_left_iff, List.forall₂_map_right_iff, List.forall₂_same]
      exact fun p hp => (hsound p hp).reads
    rw [← hjsons]
    exact Json.reads_arr hall
  · refine Writing.shows_array hin (fun p hp => ?_) ⟨hitems.le, Nat.lt_succ_self o⟩
      (by rw [ho]; rfl) (replacement_of_notCallable ?_) hsize
    · exact ⟨(hsound p hp).lo_le, Nat.le_succ_of_le (hsound p hp).le_hi⟩
    · rw [find_toJson_array hs ho]
      intro p hp
      cases hp
  · have hextent : (r.obj o).extent = 1 + vs.length := by
      rw [ho]
      simp [Obj.extent, arrayOf]
    rw [extentBelow, hextent]
    omega

/-- Parts in the order in which an object has them: indices in order, then the others as they came. -/
def arranged (parts : List Part) : List Part :=
  parts.mergeSort fun p q => indexBefore (p.key, .plain p.value) (q.key, .plain q.value)

theorem arranged_perm (parts : List Part) : (arranged parts).Perm parts := List.mergeSort_perm ..

theorem enumerable_arranged {parts : List Part} {x : Obj} (hkind : x.kind = .plain)
    (hprops : x.props = parts.map fun p => (p.key, Property.plain p.value)) :
    (x.entries.filter (·.2.enumerable)).map Prod.fst = (arranged parts).map Part.key := by
  have hentries : x.entries = (arranged parts).map fun p => (p.key, Property.plain p.value) := by
    unfold Obj.entries arranged
    rw [hkind, hprops, List.map_mergeSort (s := indexBefore) fun _ _ _ _ => rfl]
    rfl
  have hall : x.entries.filter (·.2.enumerable) = x.entries := by
    rw [hentries, List.filter_eq_self]
    intro a ha
    obtain ⟨p, -, rfl⟩ := List.mem_map.1 ha
    rfl
  rw [hall, hentries, List.map_map]
  rfl

theorem costs_perm {parts parts' : List Part} (h : parts.Perm parts') :
    Part.costs parts = Part.costs parts' := (h.map _).sum_nat

/-- The parts of an object are found there. -/
theorem find_part {parts : List Part} {p : Part} (hkind : (r.obj o).kind = .plain)
    (hprops : (r.obj o).props = parts.map fun p => (p.key, Property.plain p.value))
    (hnodup : (parts.map Part.key).Nodup) (hp : p ∈ parts) :
    r.find o p.key = some (.plain p.value) := by
  refine find_of_own ?_
  rw [Obj.own_of_plain hkind, hprops]
  refine lookup_of_mem ?_ (List.mem_map_of_mem hp)
  rw [List.map_map]
  exact hnodup

/-- What is not callable does not say how the object is written, under whatever name it stands. -/
theorem replacement_of_parts (hs : r.Standard) {parts : List Part} (hkind : (r.obj o).kind = .plain)
    (hproto : (r.obj o).proto = some Intrinsic.objectProto.id)
    (hprops : (r.obj o).props = parts.map fun p => (p.key, Property.plain p.value))
    (hparts : ∀ p ∈ parts, r.isCallable p.value = false) :
    Writing.replacement r (.object o) = none := by
  refine replacement_of_notCallable fun q hq => ?_
  cases hown : (r.obj o).own toJsonKey with
  | none =>
    rw [find_toJson_of_none hs hown hproto] at hq
    cases hq
  | some q' =>
    obtain rfl : q' = q := Option.some.inj ((find_of_own hown).symm.trans hq)
    rw [Obj.own_of_plain hkind, hprops] at hown
    obtain ⟨p, hp, heq⟩ := List.mem_map.1 (mem_of_lookup hown)
    rw [← (Prod.mk.inj heq).2]
    exact hparts p hp

theorem travels_object (hs : r.Standard) (horder : Json.InOrder fields)
    (ih : ∀ f ∈ fields, ∀ lo hi v, r.Holds f.2 lo hi v → r.Travels d f.2 lo hi v)
    (h : r.Holds (.obj fields) lo hi v) : r.Travels (d + 1) (.obj fields) lo hi v := by
  simp only [Holds] at h
  obtain ⟨o, props, rfl, rfl, ho, hfields⟩ := h
  obtain ⟨parts, hprops, hjsons, hsound, hcosts⟩ := hfields.parts ih
  have hkind : (r.obj o).kind = .plain := by rw [ho]
  have hown : (r.obj o).props = parts.map fun p => (p.key, Property.plain p.value) := by
    rw [ho, hprops]
  have hnodup : (parts.map Part.key).Nodup := by
    have hkeys : parts.map Part.key = (fields.map Prod.fst).map Units.ofString := by
      rw [← hjsons, List.map_map, List.map_map]
      rfl
    rw [hkeys]
    exact List.Nodup.map Units.ofString_injective horder.nodup
  have hsound' : ∀ p ∈ arranged parts, p ∈ parts ∧ r.Sound d lo o p := fun p hp =>
    have hp := (arranged_perm parts).subset hp
    ⟨hp, hsound p hp⟩
  refine ⟨.obj ((arranged parts).map fun p => (p.name, p.written)), Part.costs (arranged parts) + 3,
    ?_, ?_, ?_⟩
  · have hall : List.Forall₂ (fun f g => f.1 = g.1 ∧ Json.Reads d f.2 g.2)
        ((arranged parts).map fun p => (p.name, p.written))
        ((arranged parts).map fun p => (p.name, p.json)) := by
      rw [List.forall₂_map_left_iff, List.forall₂_map_right_iff, List.forall₂_same]
      exact fun p hp => ⟨rfl, (hsound' p hp).2.reads⟩
    rw [← Json.object_eq_of_perm (hjsons ▸ (arranged_perm parts).map _) horder]
    exact Json.reads_obj hall
  · have hin : ∀ p ∈ arranged parts, p.In r o := by
      intro p hp
      obtain ⟨hmem, hp⟩ := hsound' p hp
      exact ⟨⟨true, true, true, find_part hkind hown hnodup hmem⟩, hp.shows, .inr hp.le_hi⟩
    exact Writing.shows_object hin
      (fun p hp => ⟨(hsound' p hp).2.lo_le, Nat.le_succ_of_le (hsound' p hp).2.le_hi⟩)
      ⟨hfields.le, Nat.lt_succ_self o⟩ hkind
      (replacement_of_parts hs hkind (by rw [ho]) hown fun p hp => (hsound p hp).notCallable)
      (enumerable_arranged hkind hown)
  · have hextent : (r.obj o).extent = 1 + fields.length := by
      rw [ho, ← hjsons, ← hprops]
      simp [Obj.extent]
    rw [costs_perm (arranged_perm parts), extentBelow, hextent]
    omega

theorem travels_scalar {j : Json} (hj : Json.Portable d j) (h : r.Holds j lo hi v)
    (harr : ∀ items, j ≠ .arr items) (hobj : ∀ fields, j ≠ .obj fields) : r.Travels d j lo hi v := by
  cases j with
  | null =>
    simp only [Holds] at h
    obtain ⟨rfl, rfl⟩ := h
    exact ⟨.null, 2, Json.reads_null, Writing.shows_null, by omega⟩
  | bool b =>
    simp only [Holds] at h
    obtain ⟨rfl, rfl⟩ := h
    exact ⟨.bool b, 2, Json.reads_bool b, Writing.shows_bool b, by omega⟩
  | str s =>
    simp only [Holds] at h
    obtain ⟨rfl, rfl⟩ := h
    exact ⟨.str s, 2, Json.reads_str s, Writing.shows_text s, by omega⟩
  | num n =>
    simp only [Holds] at h
    obtain ⟨rfl, rfl⟩ := h
    cases n with
    | double x => cases d <;> cases hj
    | int i =>
      have hsmall : i.natAbs < 2 ^ 53 := by cases d <;> exact hj
      have hword : Number.isWord i = true := by
        simp only [Number.isWord, Bool.and_eq_true, decide_eq_true_eq]
        omega
      exact ⟨.num (.int i), 2, Json.reads_int hword, Writing.shows_int hsmall, by omega⟩
  | arr items => exact absurd rfl (harr items)
  | obj fields => exact absurd rfl (hobj fields)

/-- What stands for a value that is not changed on the way travels. -/
theorem Holds.travels (hs : r.Standard) {j : Json} (hj : Json.Portable d j) (h : r.Holds j lo hi v) :
    r.Travels d j lo hi v := by
  induction d generalizing j lo hi v with
  | zero =>
    cases j with
    | arr | obj => cases hj
    | null | bool | num | str => exact travels_scalar hj h (by simp) (by simp)
  | succ d ih =>
    cases j with
    | null | bool | num | str => exact travels_scalar hj h (by simp) (by simp)
    | arr items => exact travels_array hs (fun j hmem lo hi v => ih (hj j hmem)) h
    | obj fields => exact travels_object hs hj.1 (fun f hmem lo hi v => ih (hj.2 f hmem)) h

end Realm

end ScriptSandbox.Guest
