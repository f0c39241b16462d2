import Mathlib.Algebra.Order.BigOperators.Group.List
import Mathlib.Tactic.Linarith
import ScriptSandbox.Guest.Global
import ScriptSandbox.Proofs.Guest.Exported

/-!
# Globals before a script has run

As long as the host alone has worked on a realm, each of its globals is a constant, a function, an
object of which nothing is shown, the global object itself or a value that stands for a JSON value
(`Realm.Unscripted`). All of them leave the guest (`Realm.Fits.exported`), and those that stand for JSON
values leave it as those. A job that sets a global puts one in place and leaves all others
(`Realm.Unscripted.setGlobal_ok`).
-/

namespace ScriptSandbox.Guest

namespace Realm

variable {r r' : Realm} {key : Units} {v : Value} {o : ObjId} {e : Bool}

/-! ## What stands in a global -/

/-- A plain object of which nothing is enumerated. -/
structure IsBare (r : Realm) (o : ObjId) : Prop where
  ne_global : o ≠ globalId
  lt_size : o < r.objects.size
  kind : (r.obj o).kind = .plain
  proto : (r.obj o).proto = some Intrinsic.objectProto.id
  hidden : ∀ p ∈ (r.obj o).props, p.2.enumerable = false
  noToJson : (r.obj o).own toJsonKey = none

/-- A value stands for a JSON value that is not changed on the way, with objects of its own. -/
def Keeps (r : Realm) (j : Json) (v : Value) : Prop :=
  Json.Portable 100 j ∧ ∃ lo hi, r.Holds j lo hi v ∧ fresh.objects.size ≤ lo ∧ hi ≤ r.objects.size

/-- What can stand in a global that can be assigned to, and whether it is enumerated there. -/
inductive Fits (r : Realm) (key : Units) : Value → Bool → Prop
  | function {o : ObjId} (hcallable : r.isCallable (.object o) = true) (hkey : key ≠ toJsonKey) :
      Fits r key (.object o) false
  | itself : Fits r key (.object globalId) false
  | bare {o : ObjId} (h : r.IsBare o) (e : Bool) : Fits r key (.object o) e
  | kept {j : Json} {v : Value} (h : r.Keeps j v) (e : Bool) : Fits r key v e

/-- The globals that cannot be assigned to, and their values. -/
def constants : List (Units × Value) :=
  [(Units.ofString "undefined", .undefined), (Units.ofString "NaN", .number .nan),
    (Units.ofString "Infinity", .number .infinity)]

/-- The host alone has worked on the realm. -/
structure Unscripted (r : Realm) : Prop where
  standard : r.Standard
  kind : (r.obj globalId).kind = .plain
  proto : (r.obj globalId).proto = some Intrinsic.objectProto.id
  extensible : (r.obj globalId).extensible = true
  nodup : ((r.obj globalId).props.map Prod.fst).Nodup
  named : ∀ key ∈ (r.obj globalId).props.map Prod.fst, ∃ name, key = Units.ofString name
  json : r.KeepsJson
  constant : ∀ a ∈ constants, (r.obj globalId).own a.1 = some (.constant a.2)
  fits : ∀ key p, (r.obj globalId).own key = some p → key ∉ constants.map Prod.fst →
    ∃ v e c, p = ⟨.data v true, e, c⟩ ∧ r.Fits key v e

/-! ## What happens elsewhere -/

theorem Keeps.of_keepsOthers {j : Json} (h : r.Keeps j v) (hk : KeepsOthers r r') :
    r'.Keeps j v := by
  obtain ⟨hj, lo, hi, hholds, hlo, hhi⟩ := h
  have hfirst : globalId < fresh.objects.size := by decide +kernel
  refine ⟨hj, lo, hi, hholds.frame fun o hle hlt => ?_, hlo, Nat.le_trans hhi hk.size_le⟩
  exact hk.obj_eq o (Nat.lt_of_lt_of_le hlt hhi)
    (Nat.ne_of_gt (Nat.lt_of_lt_of_le hfirst (Nat.le_trans hlo hle)))

theorem lt_size_of_isCallable (h : r.isCallable (.object o) = true) : o < r.objects.size := by
  refine Nat.lt_of_not_le fun hle => ?_
  have hnothing : r.isCallable (.object o) = (default : Obj).isCallable := by
    unfold isCallable
    dsimp only
    rw [obj_of_size_le hle]
  rw [hnothing] at h
  cases h

theorem Unscripted.not_isCallable (h : r.Unscripted) : r.isCallable (.object globalId) = false := by
  unfold isCallable Obj.isCallable
  dsimp only
  rw [h.kind]

theorem Unscripted.ne_global_of_isCallable (h : r.Unscripted)
    (hcallable : r.isCallable (.object o) = true) : o ≠ globalId := by
  rintro rfl
  rw [h.not_isCallable] at hcallable
  cases hcallable

/-- What fits into a global does so whatever happens to the global object. -/
theorem Fits.of_keepsOthers (h : r.Fits key v e) (hr : r.Unscripted) (hk : KeepsOthers r r') :
    r'.Fits key v e := by
  cases h with
  | @function o hcallable hkey =>
    refine .function ?_ hkey
    unfold isCallable at hcallable ⊢
    dsimp only at hcallable ⊢
    rw [hk.obj_eq o (lt_size_of_isCallable hcallable) (hr.ne_global_of_isCallable hcallable)]
    exact hcallable
  | itself => exact .itself
  | @bare o hbare =>
    have hobj := hk.obj_eq o hbare.lt_size hbare.ne_global
    refine .bare ⟨hbare.ne_global, Nat.lt_of_lt_of_le hbare.lt_size hk.size_le, ?_, ?_, ?_, ?_⟩ _
    · rw [hobj, hbare.kind]
    · rw [hobj, hbare.proto]
    · rw [hobj]
      exact hbare.hidden
    · rw [hobj, hbare.noToJson]
  | kept hkeeps => exact .kept (hkeeps.of_keepsOthers hk) _

theorem Unscripted.global_lt (h : r.Unscripted) : globalId < r.objects.size :=
  Nat.lt_of_lt_of_le (by decide +kernel) h.standard.size_le

/-- New objects make no difference. -/
theorem Unscripted.of_grown (h : r.Unscripted) (hg : Grown r r') : r'.Unscripted := by
  have hglobal : r'.obj globalId = r.obj globalId := hg.obj h.global_lt
  exact
    { standard := h.standard.trans hg.keepsOthers
      kind := by rw [hglobal, h.kind]
      proto := by rw [hglobal, h.proto]
      extensible := by rw [hglobal, h.extensible]
      nodup := by rw [hglobal]; exact h.nodup
      named := by rw [hglobal]; exact h.named
      json := by unfold KeepsJson; rw [hglobal]; exact h.json
      constant := by rw [hglobal]; exact h.constant
      fits := by
        rw [hglobal]
        intro key p hp hkey
        obtain ⟨v, e, c, rfl, hf⟩ := h.fits key p hp hkey
        exact ⟨v, e, c, rfl, hf.of_keepsOthers h hg.keepsOthers⟩ }

/-! ## Putting a global in place -/

theorem Unscripted.obj_put (h : r.Unscripted) (key : Units) (p : Property) :
    (r.put globalId key p).obj globalId =
      { r.obj globalId with props := putProperty key p (r.obj globalId).props } := by
  rw [Realm.put, obj_setObj_self h.global_lt, Obj.put_of_plain h.kind]

/-- Only one of the globals is another after one has been put in place. -/
theorem Unscripted.own_put (h : r.Unscripted) (key k : Units) (p : Property) :
    ((r.put globalId key p).obj globalId).own k =
      if k = key then some p else (r.obj globalId).own k := by
  rw [h.obj_put, Obj.own_of_plain h.kind, Obj.own_of_plain (by exact h.kind)]
  exact lookup_putProperty ..

theorem Unscripted.put (h : r.Unscripted) {name : String} (hjson : name ≠ "JSON")
    (hconstant : Units.ofString name ∉ constants.map Prod.fst)
    (hf : r.Fits (Units.ofString name) v e) (c : Bool) :
    (r.put globalId (Units.ofString name) ⟨.data v true, e, c⟩).Unscripted := by
  have hk := keepsOthers_put r (Units.ofString name) ⟨.data v true, e, c⟩
  have hown := fun k => h.own_put (Units.ofString name) k ⟨.data v true, e, c⟩
  have hobj := h.obj_put (Units.ofString name) ⟨.data v true, e, c⟩
  have hnames := map_fst_putProperty (Units.ofString name) ⟨.data v true, e, c⟩
    (r.obj globalId).props
  exact
    { standard := h.standard.trans hk
      kind := by rw [hobj]; exact h.kind
      proto := by rw [hobj]; exact h.proto
      extensible := by rw [hobj]; exact h.extensible
      nodup := by
        rw [hobj, hnames]
        split
        · exact h.nodup
        · rename_i hnew
          exact h.nodup.append (List.nodup_singleton _) (by simpa using hnew)
      named := by
        rw [hobj, hnames]
        intro key hkey
        split at hkey
        · exact h.named key hkey
        · rcases List.mem_append.1 hkey with hkey | hkey
          · exact h.named key hkey
          · exact ⟨name, List.mem_singleton.1 hkey⟩
      json := by
        unfold KeepsJson
        rw [hown, if_neg fun he => hjson (Units.ofString_injective he).symm]
        exact h.json
      constant := by
        intro a ha
        have hne : a.1 ≠ Units.ofString name := fun he =>
          hconstant (List.mem_map.2 ⟨a, ha, he⟩)
        rw [hown, if_neg hne]
        exact h.constant a ha
      fits := by
        intro key p hp hkey
        rw [hown] at hp
        split at hp
        · rename_i heq
          subst heq
          exact ⟨v, e, c, (Option.some.inj hp).symm, hf.of_keepsOthers h hk⟩
        · obtain ⟨v', e', c', rfl, hf'⟩ := h.fits key p hp hkey
          exact ⟨v', e', c', rfl, hf'.of_keepsOthers h hk⟩ }

/-! ## In the beginning -/

theorem unscripted_fresh : fresh.Unscripted := by
  have hall : ∀ a ∈ (fresh.obj globalId).props, a.1 ∈ constants.map Prod.fst ∨
      a.2 = .hidden Intrinsic.global.value ∨ a.2 = .hidden Intrinsic.json.value ∨
      a.2 = .hidden Intrinsic.math.value ∨ a.1 ≠ toJsonKey ∧ a.2 = .hidden a.2.value ∧
        fresh.isCallable a.2.value = true := by decide +kernel
  have hnames : ∀ key ∈ (fresh.obj globalId).props.map Prod.fst,
      Units.ofString (Units.text key) = key := by decide +kernel
  have hbare : ∀ i ∈ [Intrinsic.json, Intrinsic.math], fresh.IsBare i.id := by
    intro i hi
    simp only [List.mem_cons, List.not_mem_nil, or_false] at hi
    rcases hi with rfl | rfl
    all_goals exact ⟨by decide, by decide +kernel, rfl, rfl, by decide +kernel, by decide +kernel⟩
  exact
    { standard := ⟨Nat.le_refl _, fun _ _ _ => rfl⟩
      kind := rfl
      proto := rfl
      extensible := rfl
      nodup := by decide +kernel
      named := fun key hkey => ⟨_, (hnames key hkey).symm⟩
      json := by unfold KeepsJson; decide +kernel
      constant := by decide +kernel
      fits := by
        intro key p hp hkey
        rw [Obj.own_of_plain rfl] at hp
        rcases hall _ (mem_of_lookup hp) with h | rfl | rfl | rfl | ⟨hne, h, hcallable⟩
        · exact absurd h hkey
        · exact ⟨_, _, _, rfl, .itself⟩
        · exact ⟨_, _, _, rfl, .bare (hbare _ (by simp)) _⟩
        · exact ⟨_, _, _, rfl, .bare (hbare _ (by simp)) _⟩
        · dsimp only at hne h hcallable
          generalize p.value = v at h hcallable
          obtain rfl := h
          cases v with
          | object o => exact ⟨_, _, _, rfl, .function hcallable hne⟩
          | _ => cases hcallable }

/-! ## What globals show -/

open Writing (Part)

theorem Keeps.not_isCallable {j : Json} (h : r.Keeps j v) : r.isCallable v = false := by
  obtain ⟨-, lo, hi, hholds, -⟩ := h
  exact hholds.notCallable

theorem IsBare.not_isCallable (h : r.IsBare o) : r.isCallable (.object o) = false := by
  unfold isCallable Obj.isCallable
  dsimp only
  rw [h.kind]

/-- No function stands in the global that would be asked for what to write. -/
theorem Fits.not_isCallable (h : r.Fits key v e) (hr : r.Unscripted) (hkey : key = toJsonKey) :
    r.isCallable v = false := by
  cases h with
  | function _ hne => exact absurd hkey hne
  | itself => exact hr.not_isCallable
  | bare hbare => exact hbare.not_isCallable
  | kept hkeeps => exact hkeeps.not_isCallable

theorem enumerable_eq_nil {x : Obj} (hkind : x.kind = .plain)
    (hidden : ∀ p ∈ x.props, p.2.enumerable = false) : x.entries.filter (·.2.enumerable) = [] := by
  rw [List.filter_eq_nil_iff]
  intro p hp
  unfold Obj.entries at hp
  rw [hkind] at hp
  rw [hidden p ((List.mergeSort_perm ..).subset hp)]
  exact Bool.false_ne_true

theorem IsBare.shows (h : r.IsBare o) (hs : r.Standard) :
    Writing.Shows r (.object o) (Units.ofString (Json.compact (.obj []))) 3 o (o + 1) := by
  have hrep : Writing.replacement r (.object o) = none := by
    refine replacement_of_notCallable fun p hp => ?_
    rw [find_toJson_of_none hs h.noToJson h.proto] at hp
    cases hp
  have hkeys : ((r.obj o).entries.filter (·.2.enumerable)).map Prod.fst =
      ([] : List Part).map Part.key := by
    rw [enumerable_eq_nil h.kind h.hidden]
    rfl
  have hnothing : ∀ p ∈ ([] : List Part), p.In r o := List.forall_mem_nil _
  have hshows := Writing.shows_object hnothing (List.forall_mem_nil _)
    ⟨Nat.le_refl o, Nat.lt_succ_self o⟩ h.kind hrep hkeys
  exact hshows

/-- There is more than the globals. -/
theorem Unscripted.length_lt_extent (h : r.Unscripted) :
    (r.obj globalId).props.length < r.extent := by
  have hextent : r.extentBelow (globalId + 1) ≤ r.extent :=
    r.extentBelow_le (Nat.succ_le_of_lt h.global_lt)
  have hone : r.extentBelow (globalId + 1) = 0 + (1 + (r.obj globalId).props.length) := by
    show 0 + (r.obj globalId).extent = _
    unfold Obj.extent
    rw [h.kind]
  omega

/-- A global that is enumerated shows something, for which there is time enough. -/
theorem Fits.part {name : String} (h : r.Fits (Units.ofString name) v true) (hr : r.Unscripted)
    {c : Bool} (hown : (r.obj globalId).own (Units.ofString name) = some ⟨.data v true, true, c⟩) :
    ∃ p : Part, p.key = Units.ofString name ∧ p.In r globalId ∧ p.hi ≤ r.objects.size ∧
      p.cost ≤ 3 * r.extent + 2 := by
  have hfirst : globalId < fresh.objects.size := by decide +kernel
  cases h with
  | @bare o hbare =>
    refine ⟨⟨name, .object o, .obj [], .obj [], 3, o, o + 1⟩, rfl,
      Writing.Part.isIn ⟨true, true, c, find_of_own hown⟩ (hbare.shows hr.standard)
        (.inl (Nat.pos_of_ne_zero hbare.ne_global)), hbare.lt_size, ?_⟩
    have hextent := hr.length_lt_extent
    show 3 ≤ _
    omega
  | @kept j v hkeeps =>
    obtain ⟨hj, lo, hi, hholds, hlo, hhi⟩ := hkeeps
    obtain ⟨k, cost, -, hshows, hcost⟩ := hholds.travels hr.standard hj
    have hextent := r.extentBelow_le hhi
    refine ⟨⟨name, v, j, k, cost, lo, hi⟩, rfl, ⟨⟨true, true, c, find_of_own hown⟩, hshows,
      .inl (Nat.lt_of_lt_of_le hfirst hlo)⟩, hhi, ?_⟩
    show cost ≤ _
    omega

theorem Unscripted.entries_eq (h : r.Unscripted) :
    (r.obj globalId).entries = (r.obj globalId).props.mergeSort indexBefore := by
  unfold Obj.entries
  rw [h.kind]
  rfl

/-- None of the constants is enumerated, so each global that is shows something. -/
theorem Unscripted.exists_part (h : r.Unscripted)
    (hkey : key ∈ ((r.obj globalId).entries.filter (·.2.enumerable)).map Prod.fst) :
    ∃ p : Part, p.key = key ∧ p.In r globalId ∧ p.hi ≤ r.objects.size ∧
      p.cost ≤ 3 * r.extent + 2 := by
  obtain ⟨⟨key, p⟩, hp, rfl⟩ := List.mem_map.1 hkey
  obtain ⟨hmem, henumerable⟩ := List.mem_filter.1 hp
  rw [h.entries_eq] at hmem
  have hmem' : (key, p) ∈ (r.obj globalId).props := (List.mergeSort_perm ..).subset hmem
  have hown : (r.obj globalId).own key = some p := by
    rw [Obj.own_of_plain h.kind]
    exact lookup_of_mem h.nodup hmem'
  obtain ⟨name, rfl⟩ := h.named key (List.mem_map_of_mem hmem')
  by_cases hconstant : Units.ofString name ∈ constants.map Prod.fst
  · obtain ⟨a, ha, haname⟩ := List.mem_map.1 hconstant
    have hvalue := h.constant a ha
    rw [haname, hown] at hvalue
    obtain rfl := Option.some.inj hvalue
    cases henumerable
  · obtain ⟨v, e, c, rfl, hf⟩ := h.fits _ p hown hconstant
    obtain rfl : e = true := henumerable
    exact hf.part h hown

/-- Nothing is written in the stead of the global object. -/
theorem Unscripted.replacement_eq_none (h : r.Unscripted) :
    Writing.replacement r (.object globalId) = none := by
  refine replacement_of_notCallable fun p hp => ?_
  cases hown : (r.obj globalId).own toJsonKey with
  | none =>
    rw [find_toJson_of_none h.standard hown h.proto] at hp
    cases hp
  | some q =>
    obtain rfl : q = p := Option.some.inj ((find_of_own hown).symm.trans hp)
    obtain ⟨v, e, c, rfl, hf⟩ := h.fits toJsonKey q hown (by decide)
    exact hf.not_isCallable h rfl

theorem exists_parts {P : Part → Prop} {keys : List Units}
    (h : ∀ k ∈ keys, ∃ p : Part, p.key = k ∧ P p) :
    ∃ parts : List Part, parts.map Part.key = keys ∧ ∀ p ∈ parts, P p := by
  induction keys with
  | nil => exact ⟨[], rfl, by simp⟩
  | cons k keys ih =>
    obtain ⟨p, hp, hP⟩ := h k List.mem_cons_self
    obtain ⟨parts, hparts, hall⟩ := ih fun k hk => h k (List.mem_cons_of_mem _ hk)
    exact ⟨p :: parts, by rw [List.map_cons, hp, hparts], List.forall_mem_cons.2 ⟨hP, hall⟩⟩

theorem costs_le {parts : List Part} {n : Nat} (h : ∀ p ∈ parts, p.cost ≤ n) :
    Part.costs parts ≤ parts.length * (n + 1) := by
  have hsum := List.sum_le_card_nsmul (parts.map fun p => p.cost + 1) (n + 1) (by
    intro c hc
    obtain ⟨p, hp, rfl⟩ := List.mem_map.1 hc
    exact Nat.succ_le_succ (h p hp))
  rwa [List.length_map, nsmul_eq_mul, Nat.cast_id] at hsum

/-- As many parts as there are globals are written in the time that there is. -/
theorem Unscripted.costs_le_patienceFor (h : r.Unscripted) {parts : List Part}
    (hlength : parts.length ≤ (r.obj globalId).props.length)
    (hparts : ∀ p ∈ parts, p.cost ≤ 3 * r.extent + 2) :
    Part.costs parts + 11 ≤ patienceFor r := by
  have hcosts := costs_le hparts
  have hextent := h.length_lt_extent
  obtain ⟨n, hn⟩ : ∃ n, r.extent = n + 1 := ⟨r.extent - 1, by omega⟩
  have hle : parts.length * (3 * r.extent + 2 + 1) ≤ n * (3 * r.extent + 2 + 1) :=
    Nat.mul_le_mul_right _ (by omega)
  unfold patienceFor patience
  rw [hn] at hle hcosts ⊢
  nlinarith

/-- The global object shows all its enumerable properties, in the time that there is. -/
theorem Unscripted.shows_global (h : r.Unscripted) : ∃ (text : Units) (k : Nat),
    Writing.Shows r (.object globalId) text k globalId r.objects.size ∧ k + 8 ≤ patienceFor r := by
  obtain ⟨parts, hkeys, hparts⟩ := exists_parts fun _ hkey => h.exists_part hkey
  have hlength : parts.length ≤ (r.obj globalId).props.length := by
    rw [← List.length_map (f := Part.key), hkeys, List.length_map, h.entries_eq]
    exact (List.length_filter_le ..).trans (Nat.le_of_eq (List.length_mergeSort _))
  refine ⟨_, _, Writing.shows_object (fun p hp => (hparts p hp).1)
    (fun p hp => ⟨Nat.zero_le _, (hparts p hp).2.1⟩) ⟨Nat.le_refl _, h.global_lt⟩ h.kind
    h.replacement_eq_none hkeys.symm, ?_⟩
  exact h.costs_le_patienceFor hlength fun p hp => (hparts p hp).2.2

/-! ## Leaving the guest -/

theorem Keeps.exported {j : Json} (h : r.Keeps j v) (hr : r.Unscripted) :
    exported v r = .done (.ok j, r) := by
  obtain ⟨hj, lo, hi, hholds, -, hhi⟩ := h
  exact hholds.exported hr.standard hr.json hj (by decide) hhi

/-- Whatever stands in a global leaves the guest, and all stays as it is. -/
theorem Fits.exported (h : r.Fits key v e) (hr : r.Unscripted) :
    ∃ j, exported v r = .done (.ok j, r) := by
  cases h with
  | function hcallable => exact ⟨_, exported_of_isCallable hcallable⟩
  | itself =>
    obtain ⟨text, k, hshows, hk⟩ := hr.shows_global
    exact ⟨_, exported_of_shows (hr.standard.standardJson hr.json) hr.not_isCallable hshows hk⟩
  | bare hbare =>
    have hshows := hbare.shows hr.standard
    refine ⟨_, exported_of_shows (hr.standard.standardJson hr.json) hbare.not_isCallable hshows ?_⟩
    unfold patienceFor patience
    omega
  | kept hkeeps => exact ⟨_, hkeeps.exported hr⟩

theorem exported_of_constant {a : Units × Value} (ha : a ∈ constants) :
    exported a.2 r = .done (.ok .null, r) := by
  simp only [constants, List.mem_cons, List.not_mem_nil, or_false] at ha
  rcases ha with rfl | rfl | rfl
  all_goals exact exported_at_once rfl

/-! ## Reading a global -/

/-- The functions that all objects share are all that is found beside the own globals. -/
theorem Unscripted.find_eq (h : r.Unscripted) (hown : (r.obj globalId).own key = none) :
    r.find globalId key = (fresh.obj Intrinsic.objectProto.id).own key :=
  h.standard.find_of_objectProto hown h.proto

/-- The object in a slot that can be written. -/
def heldObject? : Slot → Option ObjId
  | .data (.object o) true => some o
  | _ => none

theorem eq_of_heldObject? {slot : Slot} {o : ObjId} (h : heldObject? slot = some o) :
    slot = .data (.object o) true := by
  unfold heldObject? at h
  split at h
  · rw [Option.some.inj h]
  · cases h

/-- What all objects share are functions that can be hidden by globals. -/
theorem own_objectProto {p : Property} (h : (fresh.obj Intrinsic.objectProto.id).own key = some p) :
    ∃ o e c, p = ⟨.data (.object o) true, e, c⟩ ∧ o ≠ globalId ∧ o < fresh.objects.size ∧
      fresh.isCallable (.object o) = true := by
  have hall : ∀ a ∈ (fresh.obj Intrinsic.objectProto.id).props, (heldObject? a.2.slot).any (fun o =>
      o != globalId && decide (o < fresh.objects.size) && fresh.isCallable (.object o)) = true := by
    decide +kernel
  rw [Obj.own_of_plain rfl] at h
  obtain ⟨o, hslot, hp⟩ := (Option.any_eq_true _ _).1 (hall _ (mem_of_lookup h))
  obtain ⟨slot, e, c⟩ := p
  obtain rfl := eq_of_heldObject? hslot
  obtain ⟨⟨hne, hlt⟩, hcallable⟩ := by
    simpa only [Bool.and_eq_true, bne_iff_ne, decide_eq_true_eq] using hp
  exact ⟨o, e, c, rfl, hne, hlt, hcallable⟩

theorem Unscripted.exported_of_find (h : r.Unscripted) {p : Property}
    (hp : r.find globalId key = some p) :
    ∃ v w e c j, p = ⟨.data v w, e, c⟩ ∧ exported v r = .done (.ok j, r) := by
  cases hown : (r.obj globalId).own key with
  | none =>
    rw [h.find_eq hown] at hp
    obtain ⟨o, e, c, rfl, hne, hlt, hcallable⟩ := own_objectProto hp
    refine ⟨.object o, true, e, c, .null, rfl, exported_of_isCallable ?_⟩
    unfold isCallable at hcallable ⊢
    dsimp only at hcallable ⊢
    rw [h.standard.obj_eq o hlt hne, hcallable]
  | some q =>
    obtain rfl : q = p := Option.some.inj ((find_of_own hown).symm.trans hp)
    by_cases hconstant : key ∈ constants.map Prod.fst
    · obtain ⟨a, ha, rfl⟩ := List.mem_map.1 hconstant
      obtain rfl := Option.some.inj ((h.constant a ha).symm.trans hown)
      exact ⟨a.2, false, false, false, .null, rfl, exported_of_constant ha⟩
    · obtain ⟨v, e, c, rfl, hf⟩ := h.fits key q hown hconstant
      obtain ⟨j, hj⟩ := hf.exported h
      exact ⟨v, true, e, c, j, rfl, hj⟩

theorem getGlobal_of_find_none {name : String} (h : r.find globalId (Units.ofString name) = none) :
    getGlobal name r = .done (.ok none, r) := by
  show (if (r.find globalId (Units.ofString name)).isNone = true then _ else _ : GuestAction _) r = _
  rw [h]
  rfl

/-- A machine that has nothing but a value ends with it. -/
theorem run_give (v : Value) : ({ realm := r, control := .give v } : Machine).run patience =
    .done (.value v, r) := Machine.run_ended rfl 9999999

theorem getGlobal_of_find {name : String} {w e c : Bool} {j : Json}
    (h : r.find globalId (Units.ofString name) = some ⟨.data v w, e, c⟩)
    (hv : exported v r = .done (.ok j, r)) : getGlobal name r = .done (.ok (some j), r) := by
  have hread : ({ realm := r, control := .give .undefined } : Machine).getProperty
      Intrinsic.global.value (Units.ofString name) = { realm := r, control := .give v } := by
    show Machine.giveFound _ _ (r.find globalId (Units.ofString name)) = _
    rw [h]
    rfl
  show (if (r.find globalId (Units.ofString name)).isNone = true then _ else _ : GuestAction _) r = _
  rw [h]
  show GuestTask.bind (Machine.run patience
    (Machine.getProperty _ Intrinsic.global.value (Units.ofString name))) _ = _
  rw [hread, run_give]
  show GuestTask.bind (exported v r) _ = _
  rw [hv]
  rfl

/-! ## Setting a global -/

/-- Whatever is found in its place, a value is put there, unless that is a constant. -/
theorem putProperty_eq {m : Machine} (h : m.realm.Unscripted) (hkey : key ∉ constants.map Prod.fst)
    (v : Value) : ∃ e c, m.putProperty true Intrinsic.global.value key v =
      { m with realm := m.realm.put globalId key ⟨.data v true, e, c⟩, control := .give v } := by
  rw [show Intrinsic.global.value = .object globalId from rfl]
  unfold Machine.putProperty
  dsimp only
  cases hown : (m.realm.obj globalId).own key with
  | some p =>
    obtain ⟨w, e, c, rfl, -⟩ := h.fits key p hown hkey
    exact ⟨e, c, rfl⟩
  | none =>
    refine ⟨true, true, ?_⟩
    rw [h.extensible, h.find_eq hown]
    cases hfind : (fresh.obj Intrinsic.objectProto.id).own key with
    | none => rfl
    | some p =>
      obtain ⟨o, e, c, rfl, -⟩ := own_objectProto hfind
      rfl

theorem putProperty_constant {m : Machine} {a : Units × Value} (h : m.realm.Unscripted)
    (ha : a ∈ constants) (v : Value) :
    m.putProperty true Intrinsic.global.value a.1 v = m.fail (.notWritable a.1) := by
  rw [show Intrinsic.global.value = .object globalId from rfl]
  unfold Machine.putProperty
  dsimp only
  rw [h.constant a ha, find_of_own (h.constant a ha)]
  rfl

/-- A global that is set holds what it is set to, and no other global is another. -/
structure Sets (r r' : Realm) (name : String) (j : Json) : Prop where
  others : KeepsOthers r r'
  own : ∀ k ≠ Units.ofString name, (r'.obj globalId).own k = (r.obj globalId).own k
  found : ∃ v e c, (r'.obj globalId).own (Units.ofString name) = some ⟨.data v true, e, c⟩ ∧
    r'.Keeps j v

theorem Unscripted.keeps_bringIn (h : r.Unscripted) {j : Json} (hj : Json.Portable 100 j) :
    (r.bringIn j).2.Keeps j (r.bringIn j).1 :=
  ⟨hj, _, _, holds_bringIn j r, h.standard.size_le, Nat.le_refl _⟩

theorem Unscripted.setGlobal_ok (h : r.Unscripted) {name : String} {j : Json}
    (hj : Json.Portable 100 j) (hjson : name ≠ "JSON")
    (hconstant : Units.ofString name ∉ constants.map Prod.fst) :
    ∃ r', setGlobal name j r = .done (.ok (), r') ∧ r'.Unscripted ∧ r.Sets r' name j := by
  have hgrown := grown_bringIn j r
  have hkeeps := h.keeps_bringIn hj
  have hr := h.of_grown hgrown
  obtain ⟨e, c, hput⟩ :=
    putProperty_eq (m := { realm := (r.bringIn j).2, control := .give .undefined })
    hr hconstant (r.bringIn j).1
  have hothers :=
    keepsOthers_put (r.bringIn j).2 (Units.ofString name) ⟨.data (r.bringIn j).1 true, e, c⟩
  refine ⟨(r.bringIn j).2.put globalId (Units.ofString name) ⟨.data (r.bringIn j).1 true, e, c⟩, ?_,
    hr.put hjson hconstant (.kept hkeeps e) c, hgrown.keepsOthers.trans hothers, fun k hk => ?_,
    (r.bringIn j).1, e, c, ?_, hkeeps.of_keepsOthers hothers⟩
  · show GuestTask.bind (Machine.run patience
      (Machine.putProperty _ true Intrinsic.global.value (Units.ofString name) (r.bringIn j).1)) _ = _
    rw [hput]
    exact congrArg (GuestTask.bind · _) (run_give _)
  · rw [hr.own_put, if_neg hk, hgrown.obj h.global_lt]
  · rw [hr.own_put, if_pos rfl]

/-- A global that is constant stays as it is, and the caller hears of it. -/
theorem Unscripted.setGlobal_constant (h : r.Unscripted) {name : String} (j : Json)
    (hconstant : Units.ofString name ∈ constants.map Prod.fst) :
    ∃ f r', setGlobal name j r = .done (.error f, r') ∧ f.code = .execution ∧ Grown r r' := by
  obtain ⟨a, ha, hname⟩ := List.mem_map.1 hconstant
  have hgrown := grown_bringIn j r
  have hr := h.of_grown hgrown
  have hfail := putProperty_constant (m := { realm := (r.bringIn j).2, control := .give .undefined })
    hr ha (r.bringIn j).1
  rw [hname] at hfail
  generalize herror : (r.bringIn j).2.makeError (.notWritable (Units.ofString name)) = error
  obtain ⟨v, r'⟩ := error
  have hlast : Grown (r.bringIn j).2 r' := by
    rw [show r' = ((r.bringIn j).2.makeError (.notWritable (Units.ofString name))).2 by rw [herror]]
    exact grown_alloc _ _
  refine ⟨guestFailure (r'.display v), r', ?_, rfl, hgrown.trans hlast⟩
  show GuestTask.bind (Machine.run patience
    (Machine.putProperty _ true Intrinsic.global.value (Units.ofString name) (r.bringIn j).1)) _ = _
  rw [hfail]
  have hrun : (Machine.fail { realm := (r.bringIn j).2, control := .give .undefined }
      (.notWritable (Units.ofString name))).run patience = .done (.thrown v, r') := by
    unfold Machine.fail
    dsimp only
    rw [herror]
    exact Machine.run_ended rfl 9999999
  exact congrArg (GuestTask.bind · _) hrun

end Realm

end ScriptSandbox.Guest
