import ScriptSandbox.Guest.Task

/-!
# Values that stand for JSON values

A JSON value that is brought into a guest gets objects with numbers of its own, one range of them
(`Holds`): first those of its parts, one part after the other, and then its own. What happens to
other objects makes no difference (`Holds.frame`), and `bringIn` makes new objects only
(`grown_bringIn`, `holds_bringIn`).
-/

namespace ScriptSandbox.Guest.Realm

variable {r r' : Realm} {j : Json} {items : List Json} {fields : List (String × Json)}
variable {lo hi : ObjId} {v : Value} {vs : List Value} {props : List (Units × Property)}

mutual

/-- A value stands for a JSON value. Its objects have the numbers from `lo` on that are below
`hi`. -/
def Holds (r : Realm) : Json → ObjId → ObjId → Value → Prop
  | .null, lo, hi, v => v = .null ∧ lo = hi
  | .bool b, lo, hi, v => v = .bool b ∧ lo = hi
  | .num n, lo, hi, v => v = .number n.toDouble ∧ lo = hi
  | .str s, lo, hi, v => v = .ofString s ∧ lo = hi
  | .arr items, lo, hi, v => ∃ o vs, v = .object o ∧ hi = o + 1 ∧
      r.obj o = arrayOf (vs.map some) ∧ HoldsItems r items lo o vs
  | .obj fields, lo, hi, v => ∃ o props, v = .object o ∧ hi = o + 1 ∧
      r.obj o = { proto := some Intrinsic.objectProto.id, props } ∧ HoldsFields r fields lo o props

def HoldsItems (r : Realm) : List Json → ObjId → ObjId → List Value → Prop
  | [], lo, hi, vs => vs = [] ∧ lo = hi
  | j :: items, lo, hi, vs => ∃ v rest mid, vs = v :: rest ∧ Holds r j lo mid v ∧
      HoldsItems r items mid hi rest

def HoldsFields (r : Realm) :
    List (String × Json) → ObjId → ObjId → List (Units × Property) → Prop
  | [], lo, hi, props => props = [] ∧ lo = hi
  | (k, j) :: fields, lo, hi, props => ∃ v rest mid,
      props = (Units.ofString k, .plain v) :: rest ∧ Holds r j lo mid v ∧
      HoldsFields r fields mid hi rest

end

/-! ## Frames -/

mutual

theorem Holds.le : ∀ {j : Json} {lo hi : ObjId} {v : Value}, r.Holds j lo hi v → lo ≤ hi
  | .null, _, _, _, h | .bool _, _, _, _, h | .num _, _, _, _, h | .str _, _, _, _, h => by
    simp only [Holds] at h
    exact Nat.le_of_eq h.2
  | .arr _, _, _, _, h => by
    simp only [Holds] at h
    obtain ⟨o, vs, -, rfl, -, hitems⟩ := h
    exact Nat.le_succ_of_le hitems.le
  | .obj _, _, _, _, h => by
    simp only [Holds] at h
    obtain ⟨o, props, -, rfl, -, hfields⟩ := h
    exact Nat.le_succ_of_le hfields.le

theorem HoldsItems.le : ∀ {items : List Json} {lo hi : ObjId} {vs : List Value},
    r.HoldsItems items lo hi vs → lo ≤ hi
  | [], _, _, _, h => by
    simp only [HoldsItems] at h
    exact Nat.le_of_eq h.2
  | _ :: _, _, _, _, h => by
    simp only [HoldsItems] at h
    obtain ⟨v, rest, mid, -, hv, hrest⟩ := h
    exact Nat.le_trans hv.le hrest.le

theorem HoldsFields.le : ∀ {fields : List (String × Json)} {lo hi : ObjId}
    {props : List (Units × Property)}, r.HoldsFields fields lo hi props → lo ≤ hi
  | [], _, _, _, h => by
    simp only [HoldsFields] at h
    exact Nat.le_of_eq h.2
  | (_, _) :: _, _, _, _, h => by
    simp only [HoldsFields] at h
    obtain ⟨v, rest, mid, -, hv, hrest⟩ := h
    exact Nat.le_trans hv.le hrest.le

end

mutual

/-- A value stands for the same where its objects are the same. -/
theorem Holds.frame : ∀ {j : Json} {lo hi : ObjId} {v : Value}, r.Holds j lo hi v →
    (∀ o, lo ≤ o → o < hi → r'.obj o = r.obj o) → r'.Holds j lo hi v
  | .null, _, _, _, h, _ | .bool _, _, _, _, h, _ | .num _, _, _, _, h, _
  | .str _, _, _, _, h, _ => by
    simp only [Holds] at h ⊢
    exact h
  | .arr _, _, _, _, h, hsame => by
    simp only [Holds] at h ⊢
    obtain ⟨o, vs, hv, rfl, ho, hitems⟩ := h
    exact ⟨o, vs, hv, rfl, (hsame o hitems.le (Nat.lt_succ_self o)).trans ho,
      hitems.frame fun i hlo hi => hsame i hlo (Nat.lt_succ_of_lt hi)⟩
  | .obj _, _, _, _, h, hsame => by
    simp only [Holds] at h ⊢
    obtain ⟨o, props, hv, rfl, ho, hfields⟩ := h
    exact ⟨o, props, hv, rfl, (hsame o hfields.le (Nat.lt_succ_self o)).trans ho,
      hfields.frame fun i hlo hi => hsame i hlo (Nat.lt_succ_of_lt hi)⟩

theorem HoldsItems.frame : ∀ {items : List Json} {lo hi : ObjId} {vs : List Value},
    r.HoldsItems items lo hi vs → (∀ o, lo ≤ o → o < hi → r'.obj o = r.obj o) →
    r'.HoldsItems items lo hi vs
  | [], _, _, _, h, _ => by
    simp only [HoldsItems] at h ⊢
    exact h
  | _ :: _, _, _, _, h, hsame => by
    simp only [HoldsItems] at h ⊢
    obtain ⟨v, rest, mid, hvs, hv, hrest⟩ := h
    exact ⟨v, rest, mid, hvs,
      hv.frame fun o hlo hhi => hsame o hlo (Nat.lt_of_lt_of_le hhi hrest.le),
      hrest.frame fun o hlo hhi => hsame o (Nat.le_trans hv.le hlo) hhi⟩

theorem HoldsFields.frame : ∀ {fields : List (String × Json)} {lo hi : ObjId}
    {props : List (Units × Property)}, r.HoldsFields fields lo hi props →
    (∀ o, lo ≤ o → o < hi → r'.obj o = r.obj o) → r'.HoldsFields fields lo hi props
  | [], _, _, _, h, _ => by
    simp only [HoldsFields] at h ⊢
    exact h
  | (_, _) :: _, _, _, _, h, hsame => by
    simp only [HoldsFields] at h ⊢
    obtain ⟨v, rest, mid, hprops, hv, hrest⟩ := h
    exact ⟨v, rest, mid, hprops,
      hv.frame fun o hlo hhi => hsame o hlo (Nat.lt_of_lt_of_le hhi hrest.le),
      hrest.frame fun o hlo hhi => hsame o (Nat.le_trans hv.le hlo) hhi⟩

end

/-! ## Bringing in -/

/-- There are new objects, and all else is as it was. -/
def Grown (r r' : Realm) : Prop := ∃ more, r' = { r with objects := r.objects ++ more }

theorem Grown.refl (r : Realm) : Grown r r := ⟨#[], by simp⟩

theorem Grown.trans {r'' : Realm} (h : Grown r r') (h' : Grown r' r'') : Grown r r'' := by
  obtain ⟨more, rfl⟩ := h
  obtain ⟨more', rfl⟩ := h'
  exact ⟨more ++ more', by simp [Array.append_assoc]⟩

theorem grown_alloc (r : Realm) (x : Obj) : Grown r (r.alloc x).2 := ⟨#[x], by simp [alloc]⟩

theorem Grown.size_le (h : Grown r r') : r.objects.size ≤ r'.objects.size := by
  obtain ⟨more, rfl⟩ := h
  simp

theorem Grown.obj (h : Grown r r') {o : ObjId} (ho : o < r.objects.size) : r'.obj o = r.obj o := by
  obtain ⟨more, rfl⟩ := h
  simp [Realm.obj, Array.getD_eq_getD_getElem?, Array.getElem?_append_left ho]

theorem obj_alloc (r : Realm) (x : Obj) : (r.alloc x).2.obj r.objects.size = x := by
  simp [alloc, Realm.obj, Array.getD_eq_getD_getElem?]

theorem size_alloc (r : Realm) (x : Obj) : (r.alloc x).2.objects.size = r.objects.size + 1 := by
  simp [alloc]

mutual

theorem grown_bringIn : ∀ (j : Json) (r : Realm), Grown r (r.bringIn j).2
  | .null, r | .bool _, r | .num _, r | .str _, r => by
    rw [bringIn]
    exact .refl r
  | .arr items, r => by
    rw [bringIn]
    exact (grown_bringItems items r).trans (grown_alloc _ _)
  | .obj fields, r => by
    rw [bringIn]
    exact (grown_bringFields fields r).trans (grown_alloc _ _)

theorem grown_bringItems : ∀ (items : List Json) (r : Realm), Grown r (r.bringItems items).2
  | [], r => by
    rw [bringItems]
    exact .refl r
  | j :: items, r => by
    rw [bringItems]
    exact (grown_bringIn j r).trans (grown_bringItems items _)

theorem grown_bringFields : ∀ (fields : List (String × Json)) (r : Realm),
    Grown r (r.bringFields fields).2
  | [], r => by
    rw [bringFields]
    exact .refl r
  | (_, j) :: fields, r => by
    rw [bringFields]
    exact (grown_bringIn j r).trans (grown_bringFields fields _)

end

mutual

/-- What is brought in stands for what it was outside. -/
theorem holds_bringIn : ∀ (j : Json) (r : Realm), (r.bringIn j).2.Holds j r.objects.size
    (r.bringIn j).2.objects.size (r.bringIn j).1
  | .null, r | .bool _, r | .num _, r | .str _, r => by
    simp [bringIn, Holds]
  | .arr items, r => by
    have hitems := holds_bringItems items r
    simp only [bringIn, Holds]
    refine ⟨_, _, rfl, size_alloc _ _, obj_alloc _ _, hitems.frame fun o _ ho => ?_⟩
    exact (grown_alloc _ _).obj ho
  | .obj fields, r => by
    have hfields := holds_bringFields fields r
    simp only [bringIn, Holds]
    refine ⟨_, _, rfl, size_alloc _ _, obj_alloc _ _, hfields.frame fun o _ ho => ?_⟩
    exact (grown_alloc _ _).obj ho

theorem holds_bringItems : ∀ (items : List Json) (r : Realm), (r.bringItems items).2.HoldsItems items
    r.objects.size (r.bringItems items).2.objects.size (r.bringItems items).1
  | [], r => by
    simp [bringItems, HoldsItems]
  | j :: items, r => by
    have hv := holds_bringIn j r
    have hrest := holds_bringItems items (r.bringIn j).2
    simp only [bringItems, HoldsItems]
    refine ⟨_, _, _, rfl, hv.frame fun o _ ho => ?_, hrest⟩
    exact (grown_bringItems items _).obj ho

theorem holds_bringFields : ∀ (fields : List (String × Json)) (r : Realm),
    (r.bringFields fields).2.HoldsFields fields r.objects.size
      (r.bringFields fields).2.objects.size (r.bringFields fields).1
  | [], r => by
    simp [bringFields, HoldsFields]
  | (k, j) :: fields, r => by
    have hv := holds_bringIn j r
    have hrest := holds_bringFields fields (r.bringIn j).2
    simp only [bringFields, HoldsFields]
    refine ⟨_, _, _, rfl, hv.frame fun o _ ho => ?_, hrest⟩
    exact (grown_bringFields fields _).obj ho

end

end ScriptSandbox.Guest.Realm
