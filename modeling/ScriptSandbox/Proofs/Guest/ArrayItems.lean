import ScriptSandbox.Proofs.Guest.Exported
import ScriptSandbox.Proofs.Guest.LoneHalves
import ScriptSandbox.Proofs.Json.Numerals

/-!
# Arrays of primitive values that leave the guest

A primitive value leaves the guest at once (`Primitive.exported`). In an array it leaves as what its
JSON text is read as, and nothing of the array is left where one text is not read at all
(`Realm.exported_array`). For most values the two are the same (`Primitive.Plain`); they are not for
large whole numbers, which come back as whole numbers, and for texts in which a half stands alone.
-/

namespace ScriptSandbox.Guest

/-- A value of JSON that is neither an object nor an array. -/
inductive Primitive
  | null
  | bool (b : Bool)
  | number (x : Double)
  | text (u : Units)
deriving DecidableEq

namespace Primitive

variable {v : Primitive} {x : Double} {u : Units} {r : Realm}

def value : Primitive → Value
  | null => .null
  | bool b => .bool b
  | number x => .number x
  | text u => .text u

/-- What leaves the guest of the value itself. -/
def direct : Primitive → Json
  | null => .null
  | bool b => .bool b
  | number x =>
    match x.toInt? with
    | some i => if i.natAbs < 2 ^ 53 then .int i else .double x
    | none => if x.isFinite then .double x else .null
  | text u => .str (Units.text u)

/-- What the guest writes of it. -/
def written : Primitive → Units
  | null => Units.ofString "null"
  | bool b => Units.ofString (if b then "true" else "false")
  | number x => if x.isFinite then numberText x else Units.ofString "null"
  | text u => Writing.quote u

/-- What that is read as. -/
def reread (v : Primitive) : Option Json :=
  (Json.read (Utf8.encode (Units.text v.written))).toOption

/-! ## Alone -/

theorem exported (v : Primitive) (r : Realm) : Guest.exported v.value r = .done (.ok v.direct, r) := by
  refine Realm.exported_at_once ?_
  cases v with
  | null | bool | text => rfl
  | number x =>
    unfold Machine.exportValue value direct
    dsimp only
    cases x.toInt? <;> rfl

/-! ## Written and read -/

theorem shows (v : Primitive) (r : Realm) (lo hi : ObjId) :
    Writing.Shows r v.value v.written 2 lo hi := by
  cases v with
  | null => exact Writing.shows_null
  | bool b => exact Writing.shows_bool b
  | number x => exact Writing.shows_number x
  | text u => exact Writing.shows_units u

theorem digits_le_wordMax (hpos : 0 < x.significand) : x.shortest.digits ≤ Json.wordMax :=
  Nat.le_of_lt (Nat.lt_of_lt_of_le (Double.digits_lt hpos) (by decide))

theorem natAbs_exponent (hfin : x.isFinite = true) (hpos : 0 < x.significand) :
    x.shortest.exponent.natAbs < 0x1000 := by
  have := Double.exponent_lt hfin hpos
  have := Double.lt_exponent hpos
  omega

theorem isNaN_of_isFinite (hfin : x.isFinite = true) : x.isNaN = false := by
  have hfield : x.exponentField < 2047 := by simpa [Double.isFinite] using hfin
  unfold Double.isNaN
  rw [beq_false_of_ne (Nat.ne_of_lt hfield), Bool.false_and]

theorem numberChars_zero (hfin : x.isFinite = true) (hzero : x.significand = 0) :
    numberChars x = ['0'] := by
  unfold numberChars
  rw [isNaN_of_isFinite hfin, if_neg Bool.false_ne_true, if_pos ((Double.isZero_iff x).2 hzero)]

/-- The text of a number other than zero. -/
theorem encode_numberChars (hfin : x.isFinite = true) (hpos : 0 < x.significand) :
    Utf8.encodeChars (numberChars x) =
      if x.isNegative then 45 :: Utf8.encodeChars (decimalText x.shortest)
      else Utf8.encodeChars (decimalText x.shortest) := by
  have hzero : x.isZero = false := by
    rw [Bool.eq_false_iff, ne_eq, Double.isZero_iff]
    exact hpos.ne'
  unfold numberChars
  rw [isNaN_of_isFinite hfin, hzero, if_neg Bool.false_ne_true, if_neg Bool.false_ne_true, hfin,
    if_pos rfl]
  dsimp only
  cases x.isNegative <;> rfl

theorem encode_ofList (cs : List Char) : Utf8.encode (String.ofList cs) = Utf8.encodeChars cs := by
  rw [Utf8.encode, String.toList_ofList]

theorem item_numberChars (hfin : x.isFinite = true) (hpos : 0 < x.significand) {a : Option Number}
    (hread : Json.ReadsTo (Json.readNumber x.isNegative)
      (Utf8.encodeChars (decimalText x.shortest)) a) :
    Json.Item 0 (Utf8.encodeChars (numberChars x)) (a.map .num) := by
  obtain ⟨c, cs, htext, hc⟩ := Json.decimalText_head (Double.digits_pos hpos)
  rw [encode_numberChars hfin hpos]
  rw [htext] at hread ⊢
  exact Json.item_number hc hread

theorem exists_item_number (hfin : x.isFinite = true) :
    ∃ a, Json.Item 0 (Utf8.encodeChars (numberChars x)) a := by
  by_cases hzero : x.significand = 0
  · rw [numberChars_zero hfin hzero]
    exact ⟨_, (Json.reads_int (show Number.isWord 0 = true by decide)).item⟩
  · have hpos := Nat.pos_of_ne_zero hzero
    obtain ⟨a, hread⟩ := Json.exists_readNumber_decimalText x.isNegative (Double.digits_pos hpos)
      (digits_le_wordMax hpos) (natAbs_exponent hfin hpos)
    exact ⟨_, item_numberChars hfin hpos hread⟩

theorem exists_item (v : Primitive) :
    ∃ s, v.written = Units.ofString s ∧ ∃ a, Json.Item 0 (Utf8.encode s) a := by
  cases v with
  | null => exact ⟨_, rfl, _, Json.reads_null.item⟩
  | bool b => exact ⟨_, rfl, _, (Json.reads_bool b).item⟩
  | number x =>
    by_cases hfin : x.isFinite = true
    · have hwritten : (number x).written = numberText x := if_pos hfin
      refine ⟨String.ofList (numberChars x), ?_, ?_⟩
      · rw [hwritten, numberText, Units.ofString, String.toList_ofList]
      · rw [encode_ofList]
        exact exists_item_number hfin
    · exact ⟨"null", if_neg hfin, _, Json.reads_null.item⟩
  | text u =>
    by_cases hu : ∃ s, u = Units.ofString s
    · obtain ⟨s, rfl⟩ := hu
      exact ⟨_, Writing.quote_ofString s, _, (Json.reads_str s).item⟩
    · obtain ⟨s, hs, hitem⟩ := Writing.item_quote fun s hs => hu ⟨s, hs⟩
      exact ⟨s, hs, none, hitem⟩

theorem reread_eq {s : String} {a : Option Json} (hs : v.written = Units.ofString s)
    (hitem : Json.Item 0 (Utf8.encode s) a) : v.reread = a := by
  rw [reread, hs, Units.text_ofString]
  exact hitem.read_alone (by decide)

theorem item (v : Primitive) : v.written = Units.ofString (Units.text v.written) ∧
    Json.Item 0 (Utf8.encode (Units.text v.written)) v.reread := by
  obtain ⟨s, hs, a, hitem⟩ := v.exists_item
  rw [reread_eq hs hitem, hs, Units.text_ofString]
  exact ⟨rfl, hitem⟩

/-! ## Read as they are -/

/-- A number that is written with a point or an exponent, in digits and with a power of ten that both
are doubles exactly. -/
structure Short (x : Double) : Prop where
  digits : Json.Exact x.shortest.digits
  exponent : x.shortest.exponent.natAbs ≤ 22
  form : ¬ (0 ≤ x.shortest.exponent ∧
    (decimalDigits x.shortest.digits).length + x.shortest.exponent ≤ 21)

/-- A value that is read as what leaves the guest of it alone. -/
def Plain : Primitive → Prop
  | null | bool _ => True
  | number x =>
    match x.toInt? with
    | some i => i.natAbs < 2 ^ 53 ∨ Short x
    | none => x.isFinite = true → Short x
  | text u => ∃ s, u = Units.ofString s

theorem written_number (hfin : x.isFinite = true) :
    (number x).written = Units.ofString (String.ofList (numberChars x)) := by
  have hwritten : (number x).written = numberText x := if_pos hfin
  rw [hwritten, numberText, Units.ofString, String.toList_ofList]

theorem reread_number (hfin : x.isFinite = true) (hpos : 0 < x.significand) {a : Option Number}
    (hread : Json.ReadsTo (Json.readNumber x.isNegative)
      (Utf8.encodeChars (decimalText x.shortest)) a) :
    (number x).reread = a.map .num := by
  refine reread_eq (written_number hfin) ?_
  rw [encode_ofList]
  exact item_numberChars hfin hpos hread

theorem reread_short (hfin : x.isFinite = true) (hpos : 0 < x.significand) (h : Short x) :
    (number x).reread = some (.double x) := by
  refine reread_number hfin hpos (a := some (.double x)) fun rest hrest => ?_
  rw [Json.readNumber_decimalText (Double.digits_pos hpos) (digits_le_wordMax hpos)
    (natAbs_exponent hfin hpos) h.form hrest,
    Json.finish_short hfin hpos (Double.digits_pos hpos).ne' h.digits h.exponent
      (Double.near_shortest hpos)]
  rfl

theorem reread_whole {i : Int} (hi : x.toInt? = some i) (hsmall : i.natAbs < 2 ^ 53) :
    (number x).reread = some (.int i) := by
  obtain ⟨hfin, hvalue, -⟩ := Double.toInt?_spec hi
  have hword : Number.isWord i = true := by
    simp only [Number.isWord, Bool.and_eq_true, decide_eq_true_eq]
    omega
  refine reread_eq (written_number hfin) ?_
  by_cases h0 : i = 0
  · subst h0
    have hzero : x.significand = 0 := by
      have hstep := Double.two_zpow_pos x.scale
      rw [Double.value, Int.natAbs_zero, Nat.cast_zero, mul_eq_zero, or_iff_left hstep.ne'] at hvalue
      exact_mod_cast hvalue
    rw [numberChars_zero hfin hzero]
    exact (Json.reads_int hword).item
  · rw [Double.eq_ofInt hi h0, numberChars_ofInt hsmall, String.ofList_toList]
    exact (Json.reads_int hword).item

theorem significand_pos_of_toInt? (hfin : x.isFinite = true) (hi : x.toInt? = none) :
    0 < x.significand := by
  rw [Nat.pos_iff_ne_zero]
  intro hzero
  obtain ⟨hvalue, hden⟩ := x.ratio_value
  have hnum : x.ratio.1 = 0 := by
    have hden' : (x.ratio.2 : ℚ) ≠ 0 := by exact_mod_cast hden
    rw [Double.value, hzero, Nat.cast_zero, zero_mul, div_eq_zero_iff, or_iff_left hden'] at hvalue
    exact_mod_cast hvalue
  unfold Double.toInt? at hi
  rw [if_pos hfin] at hi
  dsimp only at hi
  rw [hnum, Nat.zero_mod, if_pos rfl] at hi
  cases hi

theorem significand_pos_of_large {i : Int} (hi : x.toInt? = some i) (h0 : i ≠ 0) :
    0 < x.significand := by
  refine Double.significand_pos ?_
  rw [(Double.toInt?_spec hi).2.1]
  exact_mod_cast Int.natAbs_pos.2 h0

theorem reread_of_plain (h : v.Plain) : v.reread = some v.direct := by
  cases v with
  | null => exact reread_eq rfl Json.reads_null.item
  | bool b => exact reread_eq rfl (Json.reads_bool b).item
  | text u =>
    obtain ⟨s, rfl⟩ := h
    have hwritten : (text (Units.ofString s)).written = _ := Writing.quote_ofString s
    rw [reread_eq hwritten (Json.reads_str s).item, direct, Units.text_ofString]
  | number x =>
    cases hi : x.toInt? with
    | some i =>
      simp only [Plain, hi] at h
      simp only [direct, hi]
      by_cases hsmall : i.natAbs < 2 ^ 53
      · rw [if_pos hsmall]
        exact reread_whole hi hsmall
      · have h0 : i ≠ 0 := by
          rintro rfl
          exact hsmall (by decide)
        rw [if_neg hsmall]
        exact reread_short (Double.toInt?_spec hi).1 (significand_pos_of_large hi h0)
          (h.resolve_left hsmall)
    | none =>
      simp only [Plain, hi] at h
      simp only [direct, hi]
      by_cases hfin : x.isFinite = true
      · rw [if_pos hfin]
        exact reread_short hfin (significand_pos_of_toInt? hfin hi) (h hfin)
      · rw [if_neg hfin]
        exact reread_eq (if_neg hfin) Json.reads_null.item

/-! ## Not read as they are -/

/-- A text in which a half stands alone is not read at all. -/
theorem reread_lone (hu : ∀ s, u ≠ Units.ofString s) : (text u).reread = none := by
  obtain ⟨s, hs, hitem⟩ := Writing.item_quote hu
  exact reread_eq (v := text u) hs hitem

/-- The fewest digits of a whole number below `2 ^ 63` are a whole number below it. -/
theorem shortest_lt {i : Int} (hi : x.toInt? = some i) (hbig : 2 ^ 53 ≤ i.natAbs)
    (hlt : i.natAbs < 2 ^ 63) :
    0 ≤ x.shortest.exponent ∧ x.shortest.digits * 10 ^ x.shortest.exponent.toNat ≤ 2 ^ 63 := by
  obtain ⟨-, hvalue, -⟩ := Double.toInt?_spec hi
  have hbig' : 2 ^ 53 ≤ x.value := by
    rw [hvalue]
    exact_mod_cast hbig
  have hlt' : x.value < 2 ^ 63 := by
    rw [hvalue]
    exact_mod_cast hlt
  exact ⟨Double.exponent_nonneg hbig', Double.shortest_le hbig' hlt'⟩

/-- A large whole number is read as a whole number, though it leaves alone as a double. -/
theorem reread_large {i : Int} (hi : x.toInt? = some i) (hbig : 2 ^ 53 ≤ i.natAbs)
    (hlt : i.natAbs < 2 ^ 63) : ∃ j, (number x).reread = some (.int j) := by
  obtain ⟨hexponent, hmax⟩ := shortest_lt hi hbig hlt
  have h0 : i ≠ 0 := by
    rintro rfl
    exact absurd hbig (by decide)
  have hpos := significand_pos_of_large hi h0
  have hdigits := Double.digits_pos hpos
  obtain ⟨n, hn⟩ : ∃ n, n = x.shortest.digits * 10 ^ x.shortest.exponent.toNat := ⟨_, rfl⟩
  have hne : n ≠ 0 := by
    rw [hn]
    exact (Nat.mul_pos hdigits (Nat.pow_pos (by decide))).ne'
  have hform : (decimalDigits x.shortest.digits).length + x.shortest.exponent ≤ 21 := by
    have hlength : (decimalDigits n).length ≤ 20 :=
      (Nat.length_toDigits_le_iff (by decide) (by decide)).2 (by
        rw [hn]
        exact Nat.lt_of_le_of_lt hmax (by decide))
    rw [hn, ← decimalDigits_append_zeros hdigits.ne', List.length_append, zeros,
      List.length_replicate] at hlength
    omega
  have htext := Json.decimalText_whole hdigits hexponent hform
  rw [← hn] at htext hmax
  refine ⟨if x.isNegative then -(n : Int) else n, ?_⟩
  refine reread_number (Double.toInt?_spec hi).1 hpos
    (a := some (.int (if x.isNegative then -(n : Int) else n))) fun rest hrest => ?_
  rw [htext, Json.readNumber_digits x.isNegative hrest (Nat.le_trans hmax (by decide))
    fun _ => ⟨hne, hmax⟩]
  rfl

theorem direct_large {i : Int} (hi : x.toInt? = some i) (hbig : 2 ^ 53 ≤ i.natAbs) :
    (number x).direct = .double x := by
  simp only [direct, hi]
  rw [if_neg (Nat.not_lt.2 hbig)]

end Primitive

/-! ## In an array -/

open Writing (Piece)

namespace Realm

variable {r : Realm} {o : ObjId} {vs : List Primitive}

/-- The items of an array, as they are written. -/
def pieces (o : ObjId) (start : Nat) (vs : List Primitive) : List Piece :=
  (vs.zipIdx start).map fun (v, i) =>
    { key := indexKey i, value := v.value, text := v.written, cost := 2, lo := o, hi := o }

theorem costs_pieces (o : ObjId) (start : Nat) (vs : List Primitive) :
    Piece.costs (pieces o start vs) = 3 * vs.length := by
  induction vs generalizing start with
  | nil => rfl
  | cons v vs ih =>
    have hsum : Piece.costs (pieces o start (v :: vs)) =
        2 + 1 + Piece.costs (pieces o (start + 1) vs) := rfl
    rw [hsum, ih, List.length_cons]
    omega

/-- The texts of the items behind the first. -/
theorem texts_pieces (o : ObjId) (start : Nat) (vs : List Primitive) :
    ∃ s, Piece.texts .item true (pieces o start vs) = Units.ofString s ∧
      Utf8.encode s = Json.moreTexts (vs.map fun v => Utf8.encode (Units.text v.written)) := by
  induction vs generalizing start with
  | nil => exact ⟨"", rfl, rfl⟩
  | cons v vs ih =>
    obtain ⟨s, htexts, hbytes⟩ := ih (start + 1)
    refine ⟨"," ++ Units.text v.written ++ s, ?_, ?_⟩
    · rw [Units.ofString_append, Units.ofString_append, ← v.item.1, ← htexts]
      rfl
    · rw [Utf8.encode_append, Utf8.encode_append, hbytes]
      rfl

theorem text_pieces (o : ObjId) (vs : List Primitive) :
    ∃ s, 91 :: (Piece.texts .item false (pieces o 0 vs) ++ [93]) = Units.ofString s ∧
      Utf8.encode s =
        91 :: (Json.joined (vs.map fun v => Utf8.encode (Units.text v.written)) ++ [93]) := by
  cases vs with
  | nil => exact ⟨"[]", rfl, rfl⟩
  | cons v vs =>
    obtain ⟨s, htexts, hbytes⟩ := texts_pieces o 1 vs
    refine ⟨"[" ++ Units.text v.written ++ s ++ "]", ?_, ?_⟩
    · rw [Units.ofString_append, Units.ofString_append, Units.ofString_append, ← v.item.1, ← htexts]
      rfl
    · rw [Utf8.encode_append, Utf8.encode_append, Utf8.encode_append, hbytes]
      rfl

theorem keys_pieces (o : ObjId) (vs : List Primitive) :
    (pieces o 0 vs).map Piece.key = (List.range vs.length).map indexKey := by
  have hkeys : (pieces o 0 vs).map Piece.key = (vs.zipIdx.map Prod.snd).map indexKey := by
    rw [pieces, List.map_map, List.map_map]
    rfl
  rw [hkeys, List.zipIdx_map_snd, ← List.range_eq_range']

section Array

variable (hkind : (r.obj o).kind = .array ((vs.map Primitive.value).map some).toArray)
include hkind

theorem lt_size_of_array : o < r.objects.size := by
  by_contra hge
  rw [obj_of_size_le (Nat.le_of_not_lt hge)] at hkind
  cases hkind

theorem not_isCallable_of_array : r.isCallable (.object o) = false := by
  unfold isCallable Obj.isCallable
  dsimp only
  rw [hkind]

theorem in_pieces : ∀ p ∈ pieces o 0 vs, p.In r o := by
  intro p hp
  obtain ⟨⟨v, i⟩, hmem, rfl⟩ := List.mem_map.1 hp
  have hv : (vs.map Primitive.value)[i]? = some v.value := by
    rw [List.getElem?_map, List.mem_zipIdx_iff_getElem?.1 hmem]
    rfl
  exact ⟨⟨true, true, true, find_item hkind hv⟩, v.shows r o o, .inr (Nat.le_refl o)⟩

theorem extent_of_array : 1 + vs.length ≤ (r.obj o).extent := by
  unfold Obj.extent
  rw [hkind]
  simp

/-- An array of primitive values leaves the guest as what the texts of its items are read as, or as
nothing. -/
theorem exported_array (hs : r.StandardJson)
    (hplain : ∀ p, r.find o toJsonKey = some p → r.isCallable p.value = false) :
    exported (.object o) r =
      .done (.ok (((vs.mapM Primitive.reread).map Json.arr).getD .null), r) := by
  have hwithin : Piece.Within o (o + 1) (pieces o 0 vs) := by
    intro p hp
    obtain ⟨⟨v, i⟩, -, rfl⟩ := List.mem_map.1 hp
    exact ⟨Nat.le_refl o, Nat.le_succ o⟩
  have hkeys : (List.range ((vs.map Primitive.value).map some).toArray.size).map indexKey =
      (pieces o 0 vs).map Piece.key := by
    rw [keys_pieces, List.size_toArray, List.length_map, List.length_map]
  have hshows := Writing.shows_items (in_pieces hkind) hwithin ⟨Nat.le_refl o, Nat.lt_succ_self o⟩
    hkind (replacement_of_notCallable hplain) hkeys
  have hcost : Piece.costs (pieces o 0 vs) + 3 + 3 * r.extentBelow o ≤
      3 * r.extentBelow (o + 1) + 2 := by
    have := extent_of_array hkind
    rw [costs_pieces, extentBelow]
    omega
  obtain ⟨s, htext, hbytes⟩ := text_pieces o vs
  have hitems : List.Forall₂ (Json.Item 0) (vs.map fun v => Utf8.encode (Units.text v.written))
      (vs.map Primitive.reread) := by
    rw [List.forall₂_map_left_iff, List.forall₂_map_right_iff, List.forall₂_same]
    exact fun v _ => v.item.2
  have hread := (Json.item_arr hitems).read_alone (by decide)
  rw [exported_of_shows hs (not_isCallable_of_array hkind) hshows
    (cost_le_patienceFor (lt_size_of_array hkind) hcost), htext, readWritten_ofString, hbytes, hread,
    List.mapM_map]
  rfl

end Array

theorem mapM_eq_some {α β : Type} {f : α → Option β} {g : α → β} (as : List α) :
    as.mapM f = some (as.map g) ↔ ∀ a ∈ as, f a = some (g a) := by
  induction as with
  | nil => simp
  | cons a as ih =>
    rw [List.mapM_cons, List.map_cons, List.forall_mem_cons, ← ih]
    cases f a with
    | none => simp
    | some b => cases as.mapM f <;> simp

theorem mapM_eq_none {α β : Type} {f : α → Option β} {a : α} {as : List α} (ha : a ∈ as)
    (h : f a = none) : as.mapM f = none := by
  induction as with
  | nil => cases ha
  | cons b as ih =>
    rw [List.mapM_cons]
    rcases List.mem_cons.1 ha with rfl | ha
    · rw [h]
      rfl
    · rw [ih ha]
      cases f b <;> rfl

/-- Each primitive value leaves the guest as it is. An array of them leaves the guest with each item as
its text is read, so as all of them leave alone if and only if each text is read as that. This is so of
whole numbers of at most 53 bits, of numbers that are not finite, of those whose fewest digits and
power of ten are doubles exactly, and of texts of characters. An item with a half that stands alone
leaves nothing of the array, and whole numbers of 54 to 63 bits leave it as whole numbers, though they
leave alone as doubles. -/
theorem alone_and_in_array (hs : r.StandardJson)
    (hkind : (r.obj o).kind = .array ((vs.map Primitive.value).map some).toArray)
    (hplain : ∀ p, r.find o toJsonKey = some p → r.isCallable p.value = false) :
    let together : List Json → Prop := fun js => exported (.object o) r = .done (.ok (.arr js), r)
    (∀ v ∈ vs, exported v.value r = .done (.ok v.direct, r)) ∧
      ((∀ v ∈ vs, v.Plain) → together (vs.map Primitive.direct)) ∧
      (together (vs.map Primitive.direct) ↔ ∀ v ∈ vs, v.reread = some v.direct) ∧
      (∀ js, vs.mapM Primitive.reread = some js → together js) ∧
      (vs.mapM Primitive.reread = none → exported (.object o) r = .done (.ok .null, r)) ∧
      (∀ u, .text u ∈ vs → (∀ s, u ≠ Units.ofString s) →
        exported (.object o) r = .done (.ok .null, r)) ∧
      ∀ x i, .number x ∈ vs → x.toInt? = some i → 2 ^ 53 ≤ i.natAbs → i.natAbs < 2 ^ 63 →
        (Primitive.number x).direct = .double x ∧
          ∃ j, (Primitive.number x).reread = some (.int j) := by
  intro together
  have harray := exported_array hkind hs hplain
  have hsome : ∀ js, vs.mapM Primitive.reread = some js → together js := by
    intro js h
    rw [h] at harray
    exact harray
  have hnone : vs.mapM Primitive.reread = none →
      exported (.object o) r = .done (.ok .null, r) := by
    intro h
    rw [h] at harray
    exact harray
  have hiff : together (vs.map Primitive.direct) ↔ ∀ v ∈ vs, v.reread = some v.direct := by
    rw [← mapM_eq_some]
    refine ⟨fun h => ?_, hsome _⟩
    cases hread : vs.mapM Primitive.reread with
    | none => exact nomatch (hnone hread).symm.trans h
    | some js =>
      have hsame := (hsome js hread).symm.trans h
      obtain rfl : js = vs.map Primitive.direct := by injections
      rfl
  refine ⟨fun v _ => v.exported r, fun h => ?_, hiff, hsome, hnone, fun u hu hlone => ?_, ?_⟩
  · exact hiff.2 fun v hv => Primitive.reread_of_plain (h v hv)
  · exact hnone (mapM_eq_none hu (Primitive.reread_lone hlone))
  · intro x i _ hi hbig hlt
    exact ⟨Primitive.direct_large hi hbig, Primitive.reread_large hi hbig hlt⟩

/-! ## An array that has just been made -/

/-- The realm from the start, with an array more. -/
def withArray (vs : List Primitive) : Realm :=
  (fresh.alloc (arrayOf ((vs.map Primitive.value).map some))).2

theorem standard_withArray (vs : List Primitive) : (withArray vs).Standard :=
  (grown_alloc ..).keepsOthers

theorem standardJson_withArray (vs : List Primitive) : (withArray vs).StandardJson := by
  refine (standard_withArray vs).standardJson ?_
  unfold KeepsJson
  rw [withArray, (grown_alloc ..).obj (by decide +kernel)]
  decide +kernel

theorem obj_withArray (vs : List Primitive) : (withArray vs).obj fresh.objects.size =
    arrayOf ((vs.map Primitive.value).map some) := obj_alloc ..

theorem kind_withArray (vs : List Primitive) : ((withArray vs).obj fresh.objects.size).kind =
    .array ((vs.map Primitive.value).map some).toArray := congrArg Obj.kind (obj_withArray vs)

theorem plain_withArray (vs : List Primitive) (p : Property)
    (hp : (withArray vs).find fresh.objects.size toJsonKey = some p) :
    (withArray vs).isCallable p.value = false := by
  rw [find_toJson_array (standard_withArray vs) (obj_withArray vs)] at hp
  cases hp

/-- A value of each kind. -/
def mixed : List Primitive :=
  [.null, .bool true, .number (.ofInt (-3)), .number (.ofRatio false 3 2), .text (Units.ofString "é")]

theorem plain_mixed : ∀ v ∈ mixed, v.Plain := by
  have hwhole : (Double.ofInt (-3)).toInt? = some (-3) := by decide +kernel
  have hpart : (Double.ofRatio false 3 2).toInt? = none := by decide +kernel
  have hshort : Primitive.Short (.ofRatio false 3 2) :=
    ⟨Json.exact_of_lt (by decide +kernel), by decide +kernel, by decide +kernel⟩
  simp only [mixed, List.forall_mem_cons, Primitive.Plain, hwhole, hpart]
  exact ⟨trivial, trivial, .inl (by decide), fun _ => hshort, ⟨_, rfl⟩, nofun⟩

theorem alone_and_in_array_mixed : exported (.object fresh.objects.size) (withArray mixed) =
    .done (.ok (.arr [.null, .bool true, .int (-3), .double (.ofRatio false 3 2), .str "é"]),
      withArray mixed) := by
  have hdirect : mixed.map Primitive.direct =
      [.null, .bool true, .int (-3), .double (.ofRatio false 3 2), .str "é"] := by decide +kernel
  rw [← hdirect]
  exact (alone_and_in_array (standardJson_withArray mixed) (kind_withArray mixed)
    (plain_withArray mixed)).2.1 plain_mixed

theorem loneHalf_ne (s : String) : ([0xD800] : Units) ≠ Units.ofString s := by
  intro h
  have hs := congrArg Units.text h
  rw [Units.text_ofString] at hs
  rw [← hs] at h
  revert h
  decide

/-- Not all arrays leave the guest as their items leave alone. -/
theorem not_every_item_as_alone :
    ¬ ∀ (r : Realm) (o : ObjId) (vs : List Primitive), r.StandardJson →
      (r.obj o).kind = .array ((vs.map Primitive.value).map some).toArray →
      (∀ p, r.find o toJsonKey = some p → r.isCallable p.value = false) →
      exported (.object o) r = .done (.ok (.arr (vs.map Primitive.direct)), r) := by
  intro h
  have hclaim := h (withArray [.text [0xD800]]) fresh.objects.size [.text [0xD800]]
    (standardJson_withArray _) (kind_withArray _) (plain_withArray _)
  rw [exported_array (kind_withArray _) (standardJson_withArray _) (plain_withArray _),
    mapM_eq_none (List.mem_singleton_self _) (Primitive.reread_lone loneHalf_ne)] at hclaim
  injections

end Realm

end ScriptSandbox.Guest
