import Mathlib.Algebra.GroupWithZero.Nat
import ScriptSandbox.Files.ImageSize
import ScriptSandbox.Proofs.Files.Sniffing

/-!
# Headers with the size at a fixed place

Three formats have the size of their image at a fixed place. A file that begins with such a header is
of that kind, and its size is the one that the header has (`ofFormat_header`), whatever comes behind.
The short header of old bitmaps is the exception (`ofFormat_core`): it is taken for a bitmap too, but
its four words are read as two long ones.
-/

namespace ScriptSandbox.ImageSize

open FileKind

/-! ## Numbers as bytes -/

/-- The low `count` bytes of a number, the most significant first. -/
def bigBytes : Nat → Nat → Bytes
  | 0, _ => []
  | count + 1, n => bigBytes count (n / 256) ++ [.ofNat (n % 256)]

def littleBytes (count n : Nat) : Bytes := (bigBytes count n).reverse

@[simp] theorem length_bigBytes (count n : Nat) : (bigBytes count n).length = count := by
  induction count generalizing n with
  | zero => rfl
  | succ count ih => simp [bigBytes, ih]

@[simp] theorem length_littleBytes (count n : Nat) : (littleBytes count n).length = count := by
  simp [littleBytes]

theorem bigEndian_append (front : Bytes) (b : UInt8) :
    bigEndian (front ++ [b]) = 256 * bigEndian front + b.toNat := by
  simp [bigEndian, List.foldl_append]

theorem bigEndian_bigBytes (count n : Nat) : bigEndian (bigBytes count n) = n % 256 ^ count := by
  induction count generalizing n with
  | zero => simp [bigBytes, bigEndian, Nat.mod_one]
  | succ count ih =>
    have hbyte : (UInt8.ofNat (n % 256)).toNat = n % 256 := by simp
    rw [bigBytes, bigEndian_append, ih, hbyte, Nat.pow_succ, Nat.mul_comm (256 ^ count), Nat.mod_mul]
    omega

/-! ## Reading them back -/

variable {file part : Bytes} {start count n : Nat}

theorem slice?_eq (front rest : Bytes) (h : file = front ++ (part ++ rest))
    (hf : front.length = start) (hp : part.length = count) : slice? file start count = some part := by
  subst h hf hp
  simp [slice?]

theorem big?_eq (front rest : Bytes) (h : file = front ++ (bigBytes count n ++ rest))
    (hf : front.length = start) (hn : n < 256 ^ count) : big? file start count = some n := by
  rw [big?, slice?_eq front rest h hf (length_bigBytes count n), Option.map_some, bigEndian_bigBytes,
    Nat.mod_eq_of_lt hn]

theorem little?_eq (front rest : Bytes) (h : file = front ++ (littleBytes count n ++ rest))
    (hf : front.length = start) (hn : n < 256 ^ count) : little? file start count = some n := by
  rw [little?, slice?_eq front rest h hf (length_littleBytes count n), Option.map_some, littleBytes,
    List.reverse_reverse, bigEndian_bigBytes, Nat.mod_eq_of_lt hn]

/-- Two short words in a row are one long word. -/
theorem littleBytes_append (low high : UInt16) :
    littleBytes 2 low.toNat ++ littleBytes 2 high.toNat =
      littleBytes 4 (low.toNat + 0x10000 * high.toNat) := by
  have hlow := low.toNat_lt
  have hbyte : ∀ a b : Nat, a % 256 = b % 256 → UInt8.ofNat a = UInt8.ofNat b := fun a b h =>
    UInt8.toNat_inj.1 (by simpa using h)
  simp only [littleBytes, bigBytes, List.nil_append, List.reverse_cons, List.reverse_nil,
    List.cons_append, List.cons.injEq, and_true]
  refine ⟨hbyte _ _ ?_, hbyte _ _ ?_, hbyte _ _ ?_, hbyte _ _ ?_⟩ <;> omega

theorem absolute_toUInt32 (x : Int32) : absolute x.toUInt32.toNat = x.toInt.natAbs := by
  have hlt := x.toBitVec.isLt
  have hint : x.toInt = if 2 * x.toBitVec.toNat < 2 ^ 32 then (x.toBitVec.toNat : Int)
      else x.toBitVec.toNat - (2 ^ 32 : Nat) := BitVec.toInt_eq_toNat_cond x.toBitVec
  rw [hint, show x.toUInt32.toNat = x.toBitVec.toNat from rfl, absolute]
  split <;> split <;> omega

/-! ## Headers -/

/-- The first fourteen bytes of a bitmap, less the two that tell it. -/
structure BitmapStart where
  size : UInt32
  reserved : UInt32
  offset : UInt32

def BitmapStart.bytes (start : BitmapStart) : Bytes :=
  Utf8.encode "BM" ++ (littleBytes 4 start.size.toNat ++ (littleBytes 4 start.reserved.toNat ++
    littleBytes 4 start.offset.toNat))

/-- A header up to the size of the image, with what the format leaves open in it. -/
inductive Header
  | png (chunk width height : UInt32)
  | gif87 (width height : UInt16)
  | gif89 (width height : UInt16)
  /-- A negative height marks an image stored from the top. -/
  | bitmap (start : BitmapStart) (length : UInt32) (full : 40 ≤ length.toNat) (width height : Int32)

namespace Header

def bytes : Header → Bytes
  | png chunk width height =>
    [0x89, 0x50, 0x4e, 0x47, 0x0d, 0x0a, 0x1a, 0x0a] ++ (bigBytes 4 chunk.toNat ++
      (Utf8.encode "IHDR" ++ (bigBytes 4 width.toNat ++ bigBytes 4 height.toNat)))
  | gif87 width height =>
    Utf8.encode "GIF87a" ++ (littleBytes 2 width.toNat ++ littleBytes 2 height.toNat)
  | gif89 width height =>
    Utf8.encode "GIF89a" ++ (littleBytes 2 width.toNat ++ littleBytes 2 height.toNat)
  | bitmap start length _ width height =>
    start.bytes ++ (littleBytes 4 length.toNat ++
      (littleBytes 4 width.toUInt32.toNat ++ littleBytes 4 height.toUInt32.toNat))

def kind : Header → FileKind
  | png .. => ⟨"image/png", "png", .image⟩
  | gif87 .. | gif89 .. => ⟨"image/gif", "gif", .image⟩
  | bitmap .. => FileKind.bmp

def size : Header → ImageSize
  | png _ width height => ⟨width.toNat, height.toNat⟩
  | gif87 width height | gif89 width height => ⟨width.toNat, height.toNat⟩
  | bitmap _ _ _ width height => ⟨width.toInt.natAbs, height.toInt.natAbs⟩

end Header

/-- The short header of old bitmaps, with a size that has no sign. -/
structure CoreHeader where
  start : BitmapStart
  width : UInt16
  height : UInt16
  planes : UInt16
  bits : UInt16

namespace CoreHeader

def bytes (c : CoreHeader) : Bytes :=
  c.start.bytes ++ (littleBytes 4 12 ++
    ((littleBytes 2 c.width.toNat ++ littleBytes 2 c.height.toNat) ++
      (littleBytes 2 c.planes.toNat ++ littleBytes 2 c.bits.toNat)))

def size (c : CoreHeader) : ImageSize := ⟨c.width.toNat, c.height.toNat⟩

/-- What its words come to as two long ones. -/
def misread (c : CoreHeader) : ImageSize :=
  ⟨absolute (c.width.toNat + 0x10000 * c.height.toNat),
    absolute (c.planes.toNat + 0x10000 * c.bits.toNat)⟩

/-- With a number of bits for each point there is no height that is read right. -/
theorem lt_height_misread (c : CoreHeader) (h : 0 < c.bits.toNat) (h' : c.bits.toNat < 0xffff) :
    c.size.height < c.misread.height := by
  have hheight := c.height.toNat_lt
  have hplanes := c.planes.toNat_lt
  simp only [size, misread, absolute]
  split <;> omega

end CoreHeader

/-! ## Kinds -/

@[simp] theorem length_encode_BM : (Utf8.encode "BM").length = 2 := by decide

@[simp] theorem length_encode_IHDR : (Utf8.encode "IHDR").length = 4 := by decide

@[simp] theorem BitmapStart.length_bytes (start : BitmapStart) : start.bytes.length = 14 := by
  simp [bytes]

/-- A file that begins as a bitmap and says how long its second header is, is taken for one. -/
theorem ofMagic?_bitmapStart (start : BitmapStart) {length : Nat} {rest : Bytes} (h : 0 < length)
    (hlt : length < 256 ^ 4) (hrest : 8 ≤ rest.length) :
    ofMagic? (start.bytes ++ (littleBytes 4 length ++ rest)) = some FileKind.bmp := by
  have hwebp : isWebp (start.bytes ++ (littleBytes 4 length ++ rest)) = false := rfl
  have hlength : 26 ≤ (start.bytes ++ (littleBytes 4 length ++ rest)).length := by
    simp only [List.length_append, BitmapStart.length_bytes, length_littleBytes]
    omega
  have hword : ((start.bytes ++ (littleBytes 4 length ++ rest)).drop 14).take 4 =
      littleBytes 4 length := by
    rw [List.drop_left' start.length_bytes, List.take_left' (length_littleBytes 4 length)]
  have hany : (littleBytes 4 length).any (· != 0) = true := by
    by_contra hall
    have hzero : ∀ b ∈ bigBytes 4 length, b = 0 := by simpa [littleBytes] using hall
    have hvalue := bigEndian_bigBytes 4 length
    rw [List.eq_replicate_of_mem hzero, length_bigBytes, Nat.mod_eq_of_lt hlt] at hvalue
    simp [bigEndian, List.replicate] at hvalue
    omega
  have hbmp : isBmp (start.bytes ++ (littleBytes 4 length ++ rest)) = true := by
    unfold isBmp
    rw [hword, hany, Bool.and_true, decide_eq_true hlength, Bool.true_and]
    rfl
  unfold ofMagic?
  rw [hwebp, hbmp]
  rfl

theorem ofMagic?_of_signature {kind : FileKind} (hwebp : isWebp file = false)
    (hbm : (file.take 2 == Utf8.encode "BM") = false)
    (h : (signatures.find? fun s => s.1.isPrefixOf file).map Prod.snd = some kind) :
    ofMagic? file = some kind := by
  have hbmp : isBmp file = false := by rw [isBmp, hbm, Bool.and_false, Bool.false_and]
  unfold ofMagic?
  rw [hwebp, hbmp]
  exact h

theorem ofMagic?_header (h : Header) (rest : Bytes) : ofMagic? (h.bytes ++ rest) = some h.kind := by
  cases h with
  | png | gif87 | gif89 => exact ofMagic?_of_signature rfl rfl rfl
  | bitmap start length full width height =>
    simp only [Header.bytes, List.append_assoc]
    refine ofMagic?_bitmapStart start (by omega) length.toNat_lt ?_
    simp only [List.length_append, length_littleBytes]
    omega

theorem ofMagic?_core (c : CoreHeader) (rest : Bytes) :
    ofMagic? (c.bytes ++ rest) = some FileKind.bmp := by
  simp only [CoreHeader.bytes, List.append_assoc]
  refine ofMagic?_bitmapStart c.start (by decide) (by decide) ?_
  simp only [List.length_append, length_littleBytes]
  omega

theorem sniff_of_magic {kind : FileKind} (h : ofMagic? file = some kind) :
    sniff (file.take window) = kind := by
  rw [sniff_eq, ofMagic?_take (by decide), h]
  rfl

/-! ## Sizes -/

theorem png_header (chunk width height : UInt32) (rest : Bytes) :
    png ((Header.png chunk width height).bytes ++ rest) = some ⟨width.toNat, height.toNat⟩ := by
  generalize hfile : (Header.png chunk width height).bytes ++ rest = file
  let magic : Bytes := [0x89, 0x50, 0x4e, 0x47, 0x0d, 0x0a, 0x1a, 0x0a]
  have hname : slice? file 12 4 = some (Utf8.encode "IHDR") :=
    slice?_eq (magic ++ bigBytes 4 chunk.toNat)
      (bigBytes 4 width.toNat ++ (bigBytes 4 height.toNat ++ rest))
      (by simp [← hfile, Header.bytes, magic]) (by simp [magic]) (by simp)
  have hwidth : big? file 16 4 = some width.toNat :=
    big?_eq (magic ++ (bigBytes 4 chunk.toNat ++ Utf8.encode "IHDR")) (bigBytes 4 height.toNat ++ rest)
      (by simp [← hfile, Header.bytes, magic]) (by simp [magic]) width.toNat_lt
  have hheight : big? file 20 4 = some height.toNat :=
    big?_eq (magic ++ (bigBytes 4 chunk.toNat ++ (Utf8.encode "IHDR" ++ bigBytes 4 width.toNat))) rest
      (by simp [← hfile, Header.bytes, magic]) (by simp [magic]) height.toNat_lt
  rw [png, hname, hwidth, hheight]
  rfl

/-- Both versions have the size at the same place. -/
theorem gif_header {magic : Bytes} (hmagic : magic.length = 6) (width height : UInt16) (rest : Bytes) :
    gif (magic ++ (littleBytes 2 width.toNat ++ littleBytes 2 height.toNat) ++ rest) =
      some ⟨width.toNat, height.toNat⟩ := by
  generalize hfile : magic ++ (littleBytes 2 width.toNat ++ littleBytes 2 height.toNat) ++ rest = file
  have hwidth : little? file 6 2 = some width.toNat :=
    little?_eq magic (littleBytes 2 height.toNat ++ rest) (by simp [← hfile]) hmagic width.toNat_lt
  have hheight : little? file 8 2 = some height.toNat :=
    little?_eq (magic ++ littleBytes 2 width.toNat) rest (by simp [← hfile]) (by simp [hmagic])
      height.toNat_lt
  simp [gif, hwidth, hheight]

/-- What two long words behind the length of a second header come to. -/
theorem bmp_words (start : BitmapStart) (length : Nat) {width height : Nat} (hw : width < 256 ^ 4)
    (hh : height < 256 ^ 4) (rest : Bytes) :
    bmp (start.bytes ++ (littleBytes 4 length ++ (littleBytes 4 width ++ littleBytes 4 height)) ++
      rest) = some ⟨absolute width, absolute height⟩ := by
  generalize hfile : start.bytes ++
    (littleBytes 4 length ++ (littleBytes 4 width ++ littleBytes 4 height)) ++ rest = file
  have hwidth : little? file 18 4 = some width :=
    little?_eq (start.bytes ++ littleBytes 4 length) (littleBytes 4 height ++ rest)
      (by simp [← hfile]) (by simp) hw
  have hheight : little? file 22 4 = some height :=
    little?_eq (start.bytes ++ (littleBytes 4 length ++ littleBytes 4 width)) rest
      (by simp [← hfile]) (by simp) hh
  simp [bmp, hwidth, hheight]

/-- The size of a file is the one that its header has. -/
theorem ofFormat_header (h : Header) (rest : Bytes) :
    ofFormat h.kind.extension (h.bytes ++ rest) = some h.size := by
  cases h with
  | png chunk width height => exact png_header chunk width height rest
  | gif87 width height | gif89 width height => exact gif_header (by decide) width height rest
  | bitmap start length full width height =>
    rw [Header.size, ← absolute_toUInt32, ← absolute_toUInt32]
    exact bmp_words start length.toNat width.toUInt32.toNat_lt height.toUInt32.toNat_lt rest

/-- The words of a short header are taken for long ones, two at a time. -/
theorem ofFormat_core (c : CoreHeader) (rest : Bytes) :
    ofFormat FileKind.bmp.extension (c.bytes ++ rest) = some c.misread := by
  have hw := c.width.toNat_lt
  have hh := c.height.toNat_lt
  have hp := c.planes.toNat_lt
  have hb := c.bits.toNat_lt
  rw [CoreHeader.bytes, littleBytes_append, littleBytes_append]
  exact bmp_words c.start 12 (by omega) (by omega) rest

end ScriptSandbox.ImageSize
