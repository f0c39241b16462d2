import ScriptSandbox.Guest.Task
import ScriptSandbox.Proofs.Host.Results

/-!
# Objects that come into the guest

A JSON object becomes an object of the guest with the same fields, each a property of its own
(`Realm.bringIn_obj`). The names of the fields stay apart, since a text can be read back from its units
(`Units.text_ofString`).
-/

namespace ScriptSandbox

/-! ## Units -/

namespace Units

variable {c : Char} {lone : UInt16 → List Char}

theorem toNat_ofNat {n : Nat} (hn : n < 0x10000) : (UInt16.ofNat n).toNat = n :=
  (UInt16.toNat_ofNat' ..).trans (Nat.mod_eq_of_lt hn)

theorem ofNat_within {n : Nat} (hn : n < 0x10000) (low high : UInt16) :
    (decide (low ≤ UInt16.ofNat n) && decide (UInt16.ofNat n < high)) = true ↔
      low.toNat ≤ n ∧ n < high.toNat := by
  simp only [Bool.and_eq_true, decide_eq_true_eq, UInt16.le_iff_toNat_le, UInt16.lt_iff_toNat_lt,
    toNat_ofNat hn]

theorem isHalf_ofNat {n : Nat} (hn : n < 0x10000) :
    isHalf (UInt16.ofNat n) = true ↔ 0xD800 ≤ n ∧ n < 0xE000 := ofNat_within hn ..

theorem isHigh_ofNat {n : Nat} (hn : n < 0x10000) :
    isHigh (UInt16.ofNat n) = true ↔ 0xD800 ≤ n ∧ n < 0xDC00 := ofNat_within hn ..

theorem isLow_ofNat {n : Nat} (hn : n < 0x10000) :
    isLow (UInt16.ofNat n) = true ↔ 0xDC00 ≤ n ∧ n < 0xE000 := ofNat_within hn ..

/-- What a character is written as is read as this character, whatever follows. -/
theorem charsWith_ofChar (lone : UInt16 → List Char) (c : Char) (rest : Units) :
    charsWith lone (ofChar c ++ rest) = c :: charsWith lone rest := by
  have hvalid : c.toNat < 0xD800 ∨ 0xDFFF < c.toNat ∧ c.toNat < 0x110000 := c.valid
  unfold ofChar
  dsimp only
  split
  · rename_i hn
    have hhalf : isHalf (UInt16.ofNat c.toNat) = false := by
      rw [Bool.eq_false_iff, ne_eq, isHalf_ofNat hn]
      omega
    have hhigh : isHigh (UInt16.ofNat c.toNat) = false := by
      rw [Bool.eq_false_iff, ne_eq, isHigh_ofNat hn]
      omega
    have hc : Char.ofNat (UInt16.ofNat c.toNat).toNat = c := by
      rw [toNat_ofNat hn, Char.ofNat_toNat]
    cases rest with
    | nil =>
      show charsWith lone [_] = _
      simp only [charsWith, hhalf, Bool.false_eq_true, if_false, hc]
    | cons v rest =>
      show charsWith lone (_ :: v :: rest) = _
      simp only [charsWith, hhalf, hhigh, Bool.false_and, Bool.false_eq_true, if_false, hc]
  · rename_i hn
    have hhigh : 0xD800 + (c.toNat - 0x10000) / 0x400 < 0x10000 := by omega
    have hlow : 0xDC00 + (c.toNat - 0x10000) % 0x400 < 0x10000 := by omega
    have hpair : (isHigh (UInt16.ofNat (0xD800 + (c.toNat - 0x10000) / 0x400)) &&
        isLow (UInt16.ofNat (0xDC00 + (c.toNat - 0x10000) % 0x400))) = true := by
      rw [Bool.and_eq_true, isHigh_ofNat hhigh, isLow_ofNat hlow]
      omega
    have hc : join (UInt16.ofNat (0xD800 + (c.toNat - 0x10000) / 0x400))
        (UInt16.ofNat (0xDC00 + (c.toNat - 0x10000) % 0x400)) = c := by
      have hnat : 0x10000 + (0xD800 + (c.toNat - 0x10000) / 0x400 - 0xD800) * 0x400 +
          (0xDC00 + (c.toNat - 0x10000) % 0x400 - 0xDC00) = c.toNat := by omega
      rw [join, toNat_ofNat hhigh, toNat_ofNat hlow, hnat,
        Char.ofNat_toNat]
    show charsWith lone (_ :: _ :: rest) = _
    rw [charsWith, if_pos hpair, hc]

theorem chars_ofChars (cs : List Char) : chars (ofChars cs) = cs := by
  induction cs with
  | nil => rfl
  | cons c cs ih => exact (charsWith_ofChar _ c (ofChars cs)).trans (congrArg (c :: ·) ih)

theorem text_ofString (s : String) : text (ofString s) = s := by
  rw [text, ofString, chars_ofChars, String.ofList_toList]

theorem ofString_injective : Function.Injective ofString :=
  Function.LeftInverse.injective text_ofString

end Units

namespace Guest.Realm

variable {r : Realm} {key name : String} {fields : List (String × Json)} {j : Json}

/-! ## Fields -/

/-- The properties of an object that comes in are its fields. -/
theorem lookup_bringFields (r : Realm) (fields : List (String × Json)) (key : String) :
    ∃ r' : Realm, (r.bringFields fields).1.lookup (Units.ofString key) =
      (fields.lookup key).map fun j => .plain (r'.bringIn j).1 := by
  induction fields generalizing r with
  | nil => exact ⟨r, by simp [bringFields]⟩
  | cons f fields ih =>
    obtain ⟨name, j⟩ := f
    by_cases heq : key = name
    · subst heq
      exact ⟨r, by simp [bringFields]⟩
    · have hunits : Units.ofString key ≠ Units.ofString name :=
        fun h => heq (Units.ofString_injective h)
      obtain ⟨r', hr'⟩ := ih (r.bringIn j).2
      refine ⟨r', ?_⟩
      rw [Json.lookup_cons_of_ne heq, ← hr']
      simp [bringFields, List.lookup_cons, beq_false_of_ne hunits]

/-- An object of the guest has this property of its own. -/
def Has (r : Realm) (o : ObjId) (name : String) (v : Value) : Prop :=
  r.find o (Units.ofString name) = some (.plain v)

theorem find_of_own {o : ObjId} {key : Units} {p : Property} (h : (r.obj o).own key = some p) :
    r.find o key = some p := by
  rw [find, findFrom, h]

/-- A JSON object comes in as an object that has its fields. -/
theorem bringIn_obj (r : Realm) (fields : List (String × Json)) :
    ∃ o, (r.bringIn (.obj fields)).1 = .object o ∧
      ∀ name j, fields.lookup name = some j →
        ∃ r' : Realm, (r.bringIn (.obj fields)).2.Has o name (r'.bringIn j).1 := by
  refine ⟨(r.bringFields fields).2.objects.size, rfl, fun name j hj => ?_⟩
  obtain ⟨r', hr'⟩ := lookup_bringFields r fields name
  refine ⟨r', find_of_own ?_⟩
  rw [hj] at hr'
  simpa [bringIn, alloc, obj, Obj.own, Obj.special] using hr'

/-- An object of the guest tells of the success of a call, or else of this failure. -/
def Tells (r : Realm) (o : ObjId) : Option Failure → Prop
  | none => r.Has o "success" (.bool true)
  | some f => r.Has o "success" (.bool false) ∧ r.Has o "error" (.ofString f.message) ∧
      r.Has o "code" (.ofString f.code.name)

/-- What a value tells outside it tells inside the guest as well. -/
theorem tells_bringIn (r : Realm) {j : Json} {x : Option Failure} (h : j.Tells x) :
    ∃ o, (r.bringIn j).1 = .object o ∧ (r.bringIn j).2.Tells o x := by
  cases j with
  | obj fields =>
    obtain ⟨o, ho, has⟩ := bringIn_obj r fields
    refine ⟨o, ho, ?_⟩
    cases x with
    | none =>
      obtain ⟨r', hr'⟩ := has "success" _ h
      exact hr'
    | some f =>
      obtain ⟨hsuccess, herror, hcode⟩ := h
      obtain ⟨r₁, h₁⟩ := has "success" _ hsuccess
      obtain ⟨r₂, h₂⟩ := has "error" _ herror
      obtain ⟨r₃, h₃⟩ := has "code" _ hcode
      exact ⟨h₁, h₂, h₃⟩
  | null | bool | num | str | arr =>
    cases x with
    | none => simp [Json.Tells, Json.field?] at h
    | some f => simp [Json.Tells, Json.field?] at h

end Guest.Realm

end ScriptSandbox
