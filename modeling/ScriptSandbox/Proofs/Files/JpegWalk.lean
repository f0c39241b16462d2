import ScriptSandbox.Files.ImageSize

/-!
# The walk to the frame of a JPEG file

What stands in front of the frame is passed over segment by segment, whatever the payloads hold
(`segments_front`), and the size is that of the frame. The walk itself is stated over positions:
each step reads bytes that are there, and every list of bytes has one walk (`walk_iff`).
-/

namespace ScriptSandbox.ImageSize

variable {rest : Bytes} {marker : UInt8}

/-! ## Files -/

/-- The markers of segments that consist of nothing else. -/
def StandsAlone (marker : UInt8) : Prop := marker = 0x01 ∨ 0xd0 ≤ marker ∧ marker ≤ 0xd8

/-- The markers that end the walk. -/
def Ends (marker : UInt8) : Prop := marker = 0xd9 ∨ marker = 0xda

/-- The markers of frames. -/
def OfFrame (marker : UInt8) : Prop :=
  (0xc0 ≤ marker ∧ marker ≤ 0xcf) ∧ marker ≠ 0xc4 ∧ marker ≠ 0xc8 ∧ marker ≠ 0xcc

/-- The other markers; a length follows, and a payload. -/
def CarriesLength (marker : UInt8) : Prop :=
  marker ≠ 0xff ∧ ¬ StandsAlone marker ∧ ¬ Ends marker ∧ ¬ OfFrame marker

/-- A marker with bytes in front of it that fill up. -/
def marked (fill : Nat) (marker : UInt8) : Bytes := List.replicate (fill + 1) 0xff ++ [marker]

def twoBytes (n : UInt16) : Bytes := [(n >>> 8).toUInt8, n.toUInt8]

/-- What may stand in front of a frame. -/
inductive Segment
  | alone (fill : Nat) (marker : UInt8) (alone : StandsAlone marker)
  /-- The length counts its own two bytes. -/
  | sized (fill : Nat) (marker : UInt8) (carries : CarriesLength marker) (payload : Bytes)
      (fits : payload.length + 2 < 0x10000)

def Segment.bytes : Segment → Bytes
  | .alone fill marker _ => marked fill marker
  | .sized fill marker _ payload _ =>
    marked fill marker ++ (twoBytes (.ofNat (payload.length + 2)) ++ payload)

/-- A frame segment up to its dimensions. -/
structure Frame where
  fill : Nat
  marker : UInt8
  ofFrame : OfFrame marker
  length : UInt16
  precision : UInt8
  height : UInt16
  width : UInt16

def Frame.bytes (frame : Frame) : Bytes :=
  marked frame.fill frame.marker ++
    (twoBytes frame.length ++ frame.precision :: (twoBytes frame.height ++ twoBytes frame.width))

def Frame.size (frame : Frame) : ImageSize := ⟨frame.width.toNat, frame.height.toNat⟩

/-- A file up to the dimensions of its frame. -/
def upToFrame (front : List Segment) (frame : Frame) : Bytes :=
  0xff :: 0xd8 :: (front.flatMap Segment.bytes ++ frame.bytes)

/-! ## Markers -/

theorem isStandalone_iff : isStandalone marker ↔ StandsAlone marker := by
  unfold isStandalone StandsAlone
  simp only [Bool.or_eq_true, Bool.and_eq_true, beq_iff_eq, decide_eq_true_eq, ← UInt8.toNat_inj,
    UInt8.le_iff_toNat_le]
  simp
  omega

theorem isFrame_iff : isFrame marker ↔ OfFrame marker := by
  simp [isFrame, OfFrame, and_assoc]

theorem ends_iff : (marker == 0xd9 || marker == 0xda) ↔ Ends marker := by
  simp [Ends]

theorem StandsAlone.ne (h : StandsAlone marker) : marker ≠ 0xff := by
  rintro rfl
  revert h
  unfold StandsAlone
  decide

theorem Ends.ne (h : Ends marker) : marker ≠ 0xff ∧ ¬ StandsAlone marker := by
  rcases h with rfl | rfl <;> (unfold StandsAlone; decide)

theorem OfFrame.ne (h : OfFrame marker) : marker ≠ 0xff ∧ ¬ StandsAlone marker ∧ ¬ Ends marker := by
  revert h
  unfold OfFrame StandsAlone Ends
  simp only [← UInt8.toNat_inj, UInt8.le_iff_toNat_le, ne_eq]
  simp
  omega

/-! ## One step of the walk -/

theorem segments_eq (file : Bytes) :
    segments file =
      match (file.dropWhile (· != 0xff)).dropWhile (· == 0xff) with
      | [] => none
      | marker :: rest =>
        if isStandalone marker then segments rest
        else if marker == 0xd9 || marker == 0xda then none
        else if isFrame marker then
          (big? rest 3 2).bind fun height => (big? rest 5 2).map fun width => ⟨width, height⟩
        else (big? rest 0 2).bind fun length => segments (rest.drop length) := by
  rw [segments]
  split
  · rename_i h
    rw [h]
  · rename_i marker rest h
    rw [h]
    have hframe : (do
        let height ← big? rest 3 2
        return ⟨← big? rest 5 2, height⟩ : Option ImageSize) =
          (big? rest 3 2).bind fun height => (big? rest 5 2).map fun width => ⟨width, height⟩ := by
      cases big? rest 3 2 <;> cases big? rest 5 2 <;> rfl
    rw [hframe]
    cases hlength : big? rest 0 2 <;> simp only [hlength, Option.bind]

/-- Only what follows the next bytes that fill up counts. -/
theorem segments_congr {a b : Bytes} (h : (a.dropWhile (· != 0xff)).dropWhile (· == 0xff) =
    (b.dropWhile (· != 0xff)).dropWhile (· == 0xff)) : segments a = segments b := by
  rw [segments_eq, segments_eq, h]

theorem segments_of_marker (hne : marker ≠ 0xff) :
    segments (0xff :: marker :: rest) =
      if isStandalone marker then segments rest
      else if marker == 0xd9 || marker == 0xda then none
      else if isFrame marker then
        (big? rest 3 2).bind fun height => (big? rest 5 2).map fun width => ⟨width, height⟩
      else (big? rest 0 2).bind fun length => segments (rest.drop length) := by
  have hdrop : ((0xff :: marker :: rest).dropWhile (· != 0xff)).dropWhile (· == 0xff) =
      marker :: rest := by simp [hne]
  rw [segments_eq, hdrop]

theorem segments_nil : segments [] = none := segments_eq []

/-- A byte between two segments is passed over. -/
theorem segments_skip (h : marker ≠ 0xff) : segments (marker :: rest) = segments rest :=
  segments_congr (by simp [h])

/-- So is a byte that fills up. -/
theorem segments_fill : segments (0xff :: 0xff :: rest) = segments (0xff :: rest) :=
  segments_congr (by simp)

theorem segments_cut (fill : Nat) : segments (List.replicate fill 0xff) = none := by
  rw [← segments_nil]
  exact segments_congr (by cases fill <;> simp)

theorem segments_alone (h : StandsAlone marker) :
    segments (0xff :: marker :: rest) = segments rest := by
  rw [segments_of_marker h.ne, if_pos (isStandalone_iff.2 h)]

theorem segments_ends (h : Ends marker) : segments (0xff :: marker :: rest) = none := by
  rw [segments_of_marker h.ne.1, if_neg (mt isStandalone_iff.1 h.ne.2), if_pos (ends_iff.2 h)]

theorem segments_frame (h : OfFrame marker) :
    segments (0xff :: marker :: rest) =
      (big? rest 3 2).bind fun height => (big? rest 5 2).map fun width => ⟨width, height⟩ := by
  obtain ⟨hne, halone, hends⟩ := h.ne
  rw [segments_of_marker hne, if_neg (mt isStandalone_iff.1 halone), if_neg (mt ends_iff.1 hends),
    if_pos (isFrame_iff.2 h)]

theorem segments_sized (h : CarriesLength marker) :
    segments (0xff :: marker :: rest) =
      (big? rest 0 2).bind fun length => segments (rest.drop length) := by
  obtain ⟨hne, halone, hends, hframe⟩ := h
  rw [segments_of_marker hne, if_neg (mt isStandalone_iff.1 halone), if_neg (mt ends_iff.1 hends),
    if_neg (mt isFrame_iff.1 hframe)]

theorem segments_marked (fill : Nat) :
    segments (marked fill marker ++ rest) = segments (0xff :: marker :: rest) := by
  unfold marked
  rw [List.append_assoc, List.singleton_append]
  induction fill with
  | zero => rfl
  | succ fill ih =>
    rw [List.replicate_succ, List.replicate_succ, List.cons_append, List.cons_append, segments_fill,
      ← List.cons_append, ← List.replicate_succ, ih]

/-! ## Two bytes -/

/-- The number that two bytes stand for. -/
def word (high low : UInt8) : Nat := 256 * high.toNat + low.toNat

theorem big?_two (file : Bytes) (start : Nat) :
    big? file start 2 =
      if h : start + 1 < file.length then some (word file[start] file[start + 1]) else none := by
  unfold big? slice?
  split
  · rename_i h
    have hslice : (file.drop start).take 2 = [file[start], file[start + 1]] := by
      rw [List.drop_eq_getElem_cons (by omega), List.drop_eq_getElem_cons (by omega)]
      rfl
    rw [hslice]
    simp [bigEndian, word]
  · rename_i h
    have hshort : ((file.drop start).take 2).length ≠ 2 := by
      rw [List.length_take, List.length_drop]
      omega
    rw [if_neg hshort, Option.map_none]

theorem word_twoBytes (n : UInt16) : word (n >>> 8).toUInt8 n.toUInt8 = n.toNat := by
  have hn := n.toNat_lt
  simp only [word, UInt16.toNat_toUInt8, UInt16.toNat_shiftRight]
  simp [Nat.shiftRight_eq_div_pow]
  omega

theorem big?_twoBytes (front rest : Bytes) (start : Nat) (n : UInt16) (h : front.length = start) :
    big? (front ++ (twoBytes n ++ rest)) start 2 = some n.toNat := by
  subst h
  rw [big?_two, dif_pos (by simp [twoBytes])]
  simp [twoBytes, word_twoBytes]

theorem big?_of_short {file : Bytes} {start : Nat} (h : file.length ≤ start + 1) :
    big? file start 2 = none := by
  rw [big?_two, dif_neg (by omega)]

/-! ## Files that are whole -/

/-- A segment is passed over, whatever its payload holds. -/
theorem segments_segment (s : Segment) : segments (s.bytes ++ rest) = segments rest := by
  cases s with
  | alone fill marker halone =>
    rw [Segment.bytes, segments_marked, segments_alone halone]
  | sized fill marker hcarries payload hfits =>
    have hlength : (UInt16.ofNat (payload.length + 2)).toNat = payload.length + 2 :=
      UInt16.toNat_ofNat_of_lt' hfits
    rw [Segment.bytes, List.append_assoc, segments_marked, segments_sized hcarries, List.append_assoc,
      ← List.nil_append (twoBytes _ ++ _), big?_twoBytes [] _ 0 _ rfl, hlength]
    show segments ((payload ++ rest).drop payload.length) = _
    rw [List.drop_left]

theorem segments_front (front : List Segment) :
    segments (front.flatMap Segment.bytes ++ rest) = segments rest := by
  induction front with
  | nil => rfl
  | cons s front ih => rw [List.flatMap_cons, List.append_assoc, segments_segment, ih]

theorem segments_of_frame (frame : Frame) : segments (frame.bytes ++ rest) = some frame.size := by
  rw [Frame.bytes, List.append_assoc, segments_marked, segments_frame frame.ofFrame]
  have hheight := big?_twoBytes (twoBytes frame.length ++ [frame.precision])
    (twoBytes frame.width ++ rest) 3 frame.height rfl
  have hwidth := big?_twoBytes (twoBytes frame.length ++ frame.precision :: twoBytes frame.height)
    rest 5 frame.width rfl
  simp only [List.append_assoc, List.cons_append, List.nil_append] at hheight hwidth ⊢
  rw [hheight, hwidth]
  rfl

/-! ## Files that are cut -/

/-- What is cut within two parts is cut within the first or holds all of it. -/
theorem cut_append {cut a b : Bytes} (h : cut <+: a ++ b) (hne : cut ≠ a ++ b) :
    (cut <+: a ∧ cut ≠ a) ∨ ∃ cut', cut = a ++ cut' ∧ cut' <+: b ∧ cut' ≠ b := by
  by_cases hall : a <+: cut
  · obtain ⟨cut', rfl⟩ := hall
    exact .inr ⟨cut', rfl, (List.prefix_append_right_inj a).1 h, fun hb => hne (by rw [hb])⟩
  · have hcut := (List.prefix_or_prefix_of_prefix h (List.prefix_append a b)).resolve_right hall
    exact .inl ⟨hcut, fun ha => hall (ha ▸ List.prefix_refl a)⟩

/-- Where the bytes end before a marker, there is no size. -/
theorem segments_cut_marker {cut : Bytes} {fill : Nat} (h : cut <+: marked fill marker)
    (hne : cut ≠ marked fill marker) : segments cut = none := by
  have hcut : cut <+: List.replicate (fill + 1) 0xff := by
    rcases cut_append h hne with ⟨h, -⟩ | ⟨cut', rfl, h, hne⟩
    · exact h
    · rcases List.prefix_cons_iff.1 h with rfl | ⟨rest, rfl, hrest⟩
      · simp
      · exact absurd (congrArg _ (List.prefix_nil.1 hrest)) hne
  rw [List.eq_replicate_of_mem fun b hb => List.eq_of_mem_replicate (hcut.subset hb)]
  exact segments_cut _

theorem segments_cut_segment {cut : Bytes} (s : Segment) (h : cut <+: s.bytes) (hne : cut ≠ s.bytes) :
    segments cut = none := by
  cases s with
  | alone fill marker _ => exact segments_cut_marker h hne
  | sized fill marker hcarries payload hfits =>
    rcases cut_append h hne with ⟨h, hne⟩ | ⟨cut, rfl, h, hne⟩
    · exact segments_cut_marker h hne
    rw [segments_marked, segments_sized hcarries]
    by_cases hshort : cut.length ≤ 1
    · rw [big?_of_short hshort]
      rfl
    · obtain ⟨payload', rfl, hpayload⟩ : ∃ payload',
          cut = twoBytes (.ofNat (payload.length + 2)) ++ payload' ∧ payload' <+: payload := by
        rcases cut_append h hne with ⟨h, hne⟩ | ⟨cut', rfl, h, -⟩
        · refine absurd (h.eq_of_length ?_) hne
          have := h.length_le
          simp [twoBytes] at this ⊢
          omega
        · exact ⟨cut', rfl, h⟩
      have hlength : (UInt16.ofNat (payload.length + 2)).toNat = payload.length + 2 :=
        UInt16.toNat_ofNat_of_lt' hfits
      rw [← List.nil_append (twoBytes _ ++ _), big?_twoBytes [] _ 0 _ rfl, hlength]
      show segments (payload'.drop payload.length) = none
      rw [List.drop_eq_nil_of_le hpayload.length_le, segments_nil]

theorem segments_cut_frame {cut : Bytes} (frame : Frame) (h : cut <+: frame.bytes)
    (hne : cut ≠ frame.bytes) : segments cut = none := by
  rcases cut_append h hne with ⟨h, hne⟩ | ⟨cut, rfl, h, hne⟩
  · exact segments_cut_marker h hne
  have hlength : cut.length < 7 :=
    Nat.lt_of_le_of_ne h.length_le fun heq => hne (h.eq_of_length heq)
  have hwidth : big? cut 5 2 = none := big?_of_short (by omega)
  rw [segments_marked, segments_frame frame.ofFrame, hwidth]
  cases big? cut 3 2 <;> rfl

theorem segments_cut_front {cut : Bytes} (front : List Segment) (frame : Frame)
    (h : cut <+: front.flatMap Segment.bytes ++ frame.bytes)
    (hne : cut ≠ front.flatMap Segment.bytes ++ frame.bytes) : segments cut = none := by
  induction front generalizing cut with
  | nil => exact segments_cut_frame frame h hne
  | cons s front ih =>
    rw [List.flatMap_cons, List.append_assoc] at h hne
    rcases cut_append h hne with ⟨h, hne⟩ | ⟨cut, rfl, h, hne⟩
    · exact segments_cut_segment s h hne
    · rw [segments_segment, ih h hne]

/-! ## The walk over positions -/

/-- Where the walk is: between two segments, or behind a byte that fills up. -/
inductive Stage
  | between
  | filling
deriving DecidableEq

/-- The walk from a position, and what it comes to. Each step that reads a byte holds that there is
one at the position. -/
inductive Walk (file : Bytes) : Stage → Nat → Option ImageSize → Prop
  | atEnd {stage pos} (h : file.length ≤ pos) : Walk file stage pos none
  | skip {pos result} (h : pos < file.length) (hbyte : file[pos] ≠ 0xff)
      (next : Walk file .between (pos + 1) result) : Walk file .between pos result
  | found {pos result} (h : pos < file.length) (hbyte : file[pos] = 0xff)
      (next : Walk file .filling (pos + 1) result) : Walk file .between pos result
  | fill {pos result} (h : pos < file.length) (hbyte : file[pos] = 0xff)
      (next : Walk file .filling (pos + 1) result) : Walk file .filling pos result
  | alone {pos result} (h : pos < file.length) (hmarker : StandsAlone file[pos])
      (next : Walk file .between (pos + 1) result) : Walk file .filling pos result
  | ends {pos} (h : pos < file.length) (hmarker : Ends file[pos]) : Walk file .filling pos none
  | frame {pos} (h : pos + 7 < file.length) (hmarker : OfFrame file[pos]) :
      Walk file .filling pos
        (some ⟨word file[pos + 6] file[pos + 7], word file[pos + 4] file[pos + 5]⟩)
  | cutFrame {pos} (h : pos < file.length) (hmarker : OfFrame file[pos])
      (hcut : file.length ≤ pos + 7) : Walk file .filling pos none
  | sized {pos result} (h : pos + 2 < file.length) (hmarker : CarriesLength file[pos])
      (next : Walk file .between (pos + 1 + word file[pos + 1] file[pos + 2]) result) :
      Walk file .filling pos result
  | cutSized {pos} (h : pos < file.length) (hmarker : CarriesLength file[pos])
      (hcut : file.length ≤ pos + 2) : Walk file .filling pos none

/-- The bytes that are left at a position, with the last byte that filled up. -/
def Stage.left (stage : Stage) (file : Bytes) (pos : Nat) : Bytes :=
  match stage with
  | .between => file.drop pos
  | .filling => 0xff :: file.drop pos

variable {file : Bytes} {stage : Stage} {pos : Nat} {result : Option ImageSize}

theorem big?_drop (h : pos < file.length) (start : Nat) :
    big? (file.drop (pos + 1)) start 2 =
      if h : pos + 1 + start + 1 < file.length then
        some (word file[pos + 1 + start] file[pos + 1 + start + 1]) else none := by
  rw [big?_two]
  simp only [List.length_drop, List.getElem_drop]
  by_cases hin : start + 1 < file.length - (pos + 1)
  · rw [dif_pos hin, dif_pos (by omega)]
    rfl
  · rw [dif_neg hin, dif_neg (by omega)]

theorem Walk.eq (w : Walk file stage pos result) : segments (stage.left file pos) = result := by
  induction w with
  | @atEnd stage pos h =>
    cases stage with
    | between => rw [Stage.left, List.drop_eq_nil_of_le h, segments_nil]
    | filling => rw [Stage.left, List.drop_eq_nil_of_le h]; exact segments_cut 1
  | skip h hbyte _ ih => rw [Stage.left, List.drop_eq_getElem_cons h, segments_skip hbyte]; exact ih
  | found h hbyte _ ih => rw [Stage.left, List.drop_eq_getElem_cons h, hbyte]; exact ih
  | fill h hbyte _ ih => rw [Stage.left, List.drop_eq_getElem_cons h, hbyte, segments_fill]; exact ih
  | alone h hmarker _ ih =>
    rw [Stage.left, List.drop_eq_getElem_cons h, segments_alone hmarker]
    exact ih
  | ends h hmarker => rw [Stage.left, List.drop_eq_getElem_cons h, segments_ends hmarker]
  | @frame pos h hmarker =>
    have hpos : pos < file.length := by omega
    rw [Stage.left, List.drop_eq_getElem_cons hpos, segments_frame hmarker, big?_drop hpos,
      big?_drop hpos, dif_pos (by omega), dif_pos (by omega)]
    rfl
  | cutFrame h hmarker hcut =>
    rw [Stage.left, List.drop_eq_getElem_cons h, segments_frame hmarker, big?_drop h 5,
      dif_neg (by omega)]
    cases big? _ 3 2 <;> rfl
  | @sized pos result h hmarker _ ih =>
    have hpos : pos < file.length := by omega
    rw [Stage.left, List.drop_eq_getElem_cons hpos, segments_sized hmarker, big?_drop hpos,
      dif_pos (by omega), Option.bind_some, List.drop_drop]
    exact ih
  | cutSized h hmarker hcut =>
    rw [Stage.left, List.drop_eq_getElem_cons h, segments_sized hmarker, big?_drop h,
      dif_neg (by omega)]
    rfl

/-- There is a walk from every position: a step that goes on does so further behind. -/
theorem exists_walk (file : Bytes) (stage : Stage) (pos : Nat) :
    ∃ result, Walk file stage pos result := by
  rcases Nat.lt_or_ge pos file.length with h | h
  case inr => exact ⟨none, .atEnd h⟩
  have hbetween := fun next (_ : pos < next) => exists_walk file .between next
  obtain ⟨result, hfilling⟩ := exists_walk file .filling (pos + 1)
  obtain ⟨_, hnext⟩ := hbetween (pos + 1) (by omega)
  by_cases hbyte : file[pos] = 0xff
  · cases stage with
    | between => exact ⟨result, .found h hbyte hfilling⟩
    | filling => exact ⟨result, .fill h hbyte hfilling⟩
  cases stage with
  | between => exact ⟨_, .skip h hbyte hnext⟩
  | filling =>
    by_cases halone : StandsAlone file[pos]
    · exact ⟨_, .alone h halone hnext⟩
    by_cases hends : Ends file[pos]
    · exact ⟨none, .ends h hends⟩
    by_cases hframe : OfFrame file[pos]
    · by_cases hin : pos + 7 < file.length
      · exact ⟨_, .frame hin hframe⟩
      · exact ⟨none, .cutFrame h hframe (by omega)⟩
    by_cases hin : pos + 2 < file.length
    · obtain ⟨_, hnext⟩ := hbetween (pos + 1 + word file[pos + 1] file[pos + 2]) (by omega)
      exact ⟨_, .sized hin ⟨hbyte, halone, hends, hframe⟩ hnext⟩
    · exact ⟨none, .cutSized h ⟨hbyte, halone, hends, hframe⟩ (by omega)⟩
termination_by file.length - pos

theorem walk_iff : Walk file stage pos result ↔ segments (stage.left file pos) = result := by
  refine ⟨Walk.eq, ?_⟩
  rintro rfl
  obtain ⟨result, w⟩ := exists_walk file stage pos
  rwa [w.eq]

/-! ## The size of a file -/

/-- Of a file with a frame the size is that of the frame, whatever stands in front of it and behind.
There is none where the walk is told to end before any frame, or the bytes end before the
dimensions. And whatever the bytes are, the walk over them reads bytes that are there, and comes to
an end. -/
theorem jpeg_walk :
    (∀ (front : List Segment) (frame : Frame) (rest : Bytes),
        jpeg (upToFrame front frame ++ rest) = some frame.size) ∧
      (∀ (front : List Segment) (fill : Nat) (marker : UInt8) (rest : Bytes), Ends marker →
        jpeg (0xff :: 0xd8 :: (front.flatMap Segment.bytes ++ marked fill marker ++ rest)) = none) ∧
      (∀ (front : List Segment) (frame : Frame) (count : Nat), count < (upToFrame front frame).length →
        jpeg ((upToFrame front frame).take count) = none) ∧
      ∀ (file : Bytes) (result : Option ImageSize), Walk file .between 2 result ↔ jpeg file = result := by
  refine ⟨fun front frame rest => ?_, fun front fill marker rest hends => ?_,
    fun front frame count hcount => ?_, fun file result => walk_iff⟩
  · show segments (front.flatMap Segment.bytes ++ frame.bytes ++ rest) = _
    rw [List.append_assoc, segments_front, segments_of_frame]
  · show segments (front.flatMap Segment.bytes ++ marked fill marker ++ rest) = _
    rw [List.append_assoc, segments_front, segments_marked, segments_ends hends]
  · show segments (((upToFrame front frame).take count).drop 2) = none
    rw [List.drop_take]
    refine segments_cut_front front frame (List.take_prefix _ _) fun heq => ?_
    have hlength := congrArg List.length heq
    have hframe : 0 < frame.bytes.length := by
      simp only [Frame.bytes, marked, List.length_append, List.length_cons]
      omega
    simp only [upToFrame, List.drop_succ_cons, List.drop_zero, List.length_cons, List.length_take,
      List.length_append] at hcount hlength
    omega

theorem jpeg_walk_imitating :
    let front : List Segment :=
      [.alone 0 0xd8 (by unfold StandsAlone; decide),
        .sized 2 0xe0 (by unfold CarriesLength StandsAlone Ends OfFrame; decide)
          [0xff, 0xc0, 0xff, 0xd9] (by decide)]
    let frame : Frame := ⟨0, 0xc2, by unfold OfFrame; decide, 17, 8, 300, 400⟩
    jpeg (upToFrame front frame ++ [0xff]) = some ⟨400, 300⟩ ∧
      jpeg (0xff :: 0xd8 :: (front.flatMap Segment.bytes ++ marked 1 0xda ++ frame.bytes)) = none ∧
      jpeg ((upToFrame front frame).take 20) = none :=
  ⟨jpeg_walk.1 _ _ _, jpeg_walk.2.1 _ _ _ _ (.inr rfl), jpeg_walk.2.2.1 _ _ _ (by decide)⟩

end ScriptSandbox.ImageSize
