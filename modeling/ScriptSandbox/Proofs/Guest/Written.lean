import ScriptSandbox.Guest.Step
import ScriptSandbox.Proofs.Guest.BringIn
import ScriptSandbox.Proofs.Number.Whole

/-!
# What guests write

What a value leaves behind when it is written is put together from what its parts leave, in as many
steps as they take (`Writing.Shows`), for objects and for arrays in one way (`Writing.shows_enter`). A
guest quotes texts as they are quoted outside (`Writing.quote_ofString`).
-/

namespace ScriptSandbox

theorem Units.ofChars_append (cs ds : List Char) :
    ofChars (cs ++ ds) = ofChars cs ++ ofChars ds := List.flatMap_append

theorem Units.ofString_append (s t : String) : ofString (s ++ t) = ofString s ++ ofString t := by
  unfold ofString
  rw [String.toList_append, ofChars_append]

namespace Guest

namespace Writing

variable {r : Realm} {v : Value} {o lo hi : ObjId} {w w₁ w₂ : Writing} {k k' : Nat}

/-! ## Texts -/

theorem escapes_ofChar (c : Char) (rest : Units) :
    escapes (Units.ofChar c ++ rest) = Units.ofChars (Json.escapeChar c) ++ escapes rest := by
  have hvalid : c.toNat < 0xD800 ∨ 0xDFFF < c.toNat ∧ c.toNat < 0x110000 := c.valid
  unfold Units.ofChar
  dsimp only
  split
  · rename_i hn
    have hhalf : Units.isHalf (UInt16.ofNat c.toNat) = false := by
      rw [Bool.eq_false_iff, ne_eq, Units.isHalf_ofNat hn]
      omega
    have hhigh : Units.isHigh (UInt16.ofNat c.toNat) = false := by
      rw [Bool.eq_false_iff, ne_eq, Units.isHigh_ofNat hn]
      omega
    have hescape : escape (UInt16.ofNat c.toNat) false = Units.ofChars (Json.escapeChar c) := by
      unfold escape
      rw [if_neg Bool.false_ne_true, Units.toNat_ofNat hn, Char.ofNat_toNat]
    cases rest with
    | nil =>
      show escapes [_] = _
      simp only [escapes, hhalf, hescape, List.append_nil]
    | cons v rest =>
      show escapes (_ :: v :: rest) = _
      rw [escapes, hhigh, Bool.false_and, if_neg Bool.false_ne_true, hhalf, hescape]
  · rename_i hn
    have hpair : (Units.isHigh (UInt16.ofNat (0xD800 + (c.toNat - 0x10000) / 0x400)) &&
        Units.isLow (UInt16.ofNat (0xDC00 + (c.toNat - 0x10000) % 0x400))) = true := by
      rw [Bool.and_eq_true, Units.isHigh_ofNat (by omega), Units.isLow_ofNat (by omega)]
      omega
    have hself : Json.escapeChar c = [c] := by
      unfold Json.escapeChar
      split
      all_goals first
        | exact absurd (by decide) hn
        | rw [if_neg (by omega)]
    rw [hself]
    show escapes (_ :: _ :: rest) = Units.ofChar c ++ [] ++ escapes rest
    rw [escapes, if_pos hpair]
    unfold Units.ofChar
    dsimp only
    rw [if_neg hn]
    rfl

theorem escapes_ofChars (cs : List Char) (rest : Units) :
    escapes (Units.ofChars cs ++ rest) =
      Units.ofChars (cs.flatMap Json.escapeChar) ++ escapes rest := by
  induction cs with
  | nil => rfl
  | cons c cs ih =>
    show escapes (Units.ofChar c ++ Units.ofChars cs ++ rest) = _
    rw [List.append_assoc, escapes_ofChar, ih, List.flatMap_cons, Units.ofChars_append,
      List.append_assoc]

/-- A guest quotes a text as it is quoted outside. -/
theorem quote_ofString (s : String) : quote (Units.ofString s) = Units.ofString (Json.quote s) := by
  unfold quote Json.quote Units.ofString Json.quoteChars
  rw [← List.append_nil (Units.ofChars s.toList), escapes_ofChars, String.toList_ofList]
  show 34 :: (Units.ofChars (s.toList.flatMap Json.escapeChar) ++ [] ++ [34]) =
    34 :: Units.ofChars (s.toList.flatMap Json.escapeChar ++ ['"'])
  rw [List.append_nil, Units.ofChars_append]
  rfl

/-! ## Steps -/

/-- Writing goes on for so many steps, without a call. -/
def Runs (r : Realm) : Nat → Writing → Writing → Prop
  | 0, w, w' => w = w'
  | k + 1, w, w' => ∃ w₁, step r w = .more w₁ ∧ Runs r k w₁ w'

theorem Runs.trans (h : Runs r k w w₁) (h' : Runs r k' w₁ w₂) : Runs r (k + k') w w₂ := by
  induction k generalizing w with
  | zero =>
    obtain rfl : w = w₁ := h
    rwa [Nat.zero_add]
  | succ k ih =>
    obtain ⟨w', hstep, hrest⟩ := h
    rw [Nat.succ_add]
    exact ⟨w', hstep, ih hrest⟩

theorem runs_one (h : step r w = .more w₁) : Runs r 1 w w₁ := ⟨w₁, h, rfl⟩

/-- What stands before a part of an object or an array. -/
def leadText (started : Bool) (key : Units) (place : WritePlace) : Units :=
  (if started then [44] else []) ++
    match place with
    | .field => quote key ++ [58]
    | _ => []

theorem lead_part {place : WritePlace} {started : Bool} {outer : List (ObjId × Bool)}
    (hi : w.indent = []) (hplace : place ≠ .top) (ha : w.around = (o, started) :: outer)
    (key : Units) :
    w.lead key place =
      { w with
        around := (o, true) :: outer
        text := (leadText started key place).reverse ++ w.text } := by
  obtain ⟨steps, text, around, indent⟩ := w
  obtain rfl : indent = [] := hi
  obtain rfl : around = (o, started) :: outer := ha
  cases place with
  | top => exact absurd rfl hplace
  | field => cases started <;> simp [lead, leadText, newline, add]
  | item => cases started <;> simp [lead, leadText, newline, add]

/-- What stands before a value opens nothing and ends nothing. -/
theorem lead_spec (hi : w.indent = []) (key : Units) (place : WritePlace) :
    (w.lead key place).indent = [] ∧ (w.lead key place).steps = w.steps ∧
      (w.lead key place).around.map Prod.fst = w.around.map Prod.fst := by
  by_cases htop : place = .top
  · subst htop
    exact ⟨hi, rfl, rfl⟩
  · cases ha : w.around with
    | nil =>
      have hsame : w.lead key place = w := by
        unfold lead
        rw [ha]
        cases place <;> rfl
      rw [hsame, ha]
      exact ⟨hi, rfl, rfl⟩
    | cons a outer =>
      obtain ⟨o, started⟩ := a
      rw [lead_part hi htop ha]
      exact ⟨hi, rfl, rfl⟩

/-! ## Values -/

/-- Where lines are not wanted, a value leaves this text after so many steps. The numbers of its
objects are from `lo` on and below `hi`; none of them may be open. -/
def Shows (r : Realm) (v : Value) (text : Units) (cost : Nat) (lo hi : ObjId) : Prop :=
  ∀ (w : Writing) (key : Units) (place : WritePlace) (rest : List WriteStep), w.indent = [] →
    (∀ o ∈ w.around.map Prod.fst, o < lo ∨ hi ≤ o) →
    Runs r cost { w with steps := .value v key place :: rest }
      (({ w with steps := rest }.lead key place).add text)

/-- A value that wants nothing written in its stead. -/
theorem runs_value {w' : Writing} {key : Units} {place : WritePlace} {rest : List WriteStep}
    (hrep : replacement r v = none)
    (hplain : plain r { w with steps := rest } v key place = .more w') :
    Runs r 2 { w with steps := .value v key place :: rest } w' := by
  refine ⟨{ w with steps := .plain v key place :: rest }, ?_, runs_one ?_⟩
  · unfold step
    dsimp only
    rw [hrep]
  · exact hplain

theorem shows_null : Shows r .null (Units.ofString "null") 2 lo hi :=
  fun _ _ _ _ _ _ => runs_value rfl rfl

theorem shows_bool (b : Bool) :
    Shows r (.bool b) (Units.ofString (if b then "true" else "false")) 2 lo hi :=
  fun _ _ _ _ _ _ => runs_value rfl rfl

theorem shows_units (u : Units) : Shows r (.text u) (quote u) 2 lo hi :=
  fun _ _ _ _ _ _ => runs_value rfl rfl

theorem shows_text (s : String) :
    Shows r (.ofString s) (Units.ofString (Json.quote s)) 2 lo hi := by
  rw [← quote_ofString]
  exact shows_units _

theorem shows_number (x : Double) :
    Shows r (.number x) (if x.isFinite then numberText x else Units.ofString "null") 2 lo hi := by
  intro w key place rest _ _
  refine runs_value rfl ?_
  show (if x.isFinite then WriteTurn.more (_ : Writing) else _) = _
  cases x.isFinite <;> rfl

theorem shows_int {i : Int} (hsmall : i.natAbs < 2 ^ 53) :
    Shows r (.number (.ofInt i)) (Units.ofString (intText i)) 2 lo hi := by
  have hshows : Shows r (.number (.ofInt i)) _ 2 lo hi := shows_number (.ofInt i)
  rwa [if_pos (Double.isFinite_ofInt hsmall), numberText, numberChars_ofInt hsmall] at hshows

/-! ## Objects and arrays -/

/-- What is written of a part of an object or an array: the value that is found under the key, its
text, and the numbers of its objects. -/
structure Piece where
  key : Units
  value : Value
  text : Units
  cost : Nat
  lo : ObjId
  hi : ObjId

namespace Piece

/-- What is found in an object under the key is the value, and it shows the text. -/
structure In (p : Piece) (r : Realm) (o : ObjId) : Prop where
  found : ∃ b e c, r.find o p.key = some ⟨.data p.value b, e, c⟩
  shows : Shows r p.value p.text p.cost p.lo p.hi
  apart : o < p.lo ∨ p.hi ≤ o

/-- The texts of pieces, each but the first behind a comma. -/
def texts (place : WritePlace) : Bool → List Piece → Units
  | _, [] => []
  | started, p :: pieces => leadText started p.key place ++ p.text ++ texts place true pieces

/-- How long it takes to write pieces. -/
def costs (pieces : List Piece) : Nat := (pieces.map fun p => p.cost + 1).sum

/-- The pieces of something lie within its numbers. -/
def Within (lo hi : ObjId) (pieces : List Piece) : Prop := ∀ p ∈ pieces, lo ≤ p.lo ∧ p.hi ≤ hi

end Piece

/-- Pieces of an open object are written one after the other. -/
theorem runs_pieces {pieces : List Piece} (hpieces : ∀ p ∈ pieces, p.In r o) {place : WritePlace}
    (hplace : place ≠ .top) (w : Writing) (started : Bool) (outer : List (ObjId × Bool))
    (rest : List WriteStep) (hindent : w.indent = []) (ha : w.around = (o, started) :: outer)
    (houter : ∀ p ∈ pieces, ∀ i ∈ outer.map Prod.fst, i < p.lo ∨ p.hi ≤ i) :
    Runs r (Piece.costs pieces)
      { w with steps := pieces.map (fun p => .property o p.key place) ++ rest }
      { w with
        steps := rest, around := (o, started || !pieces.isEmpty) :: outer
        text := (Piece.texts place started pieces).reverse ++ w.text } := by
  induction pieces generalizing w started with
  | nil =>
    obtain ⟨steps, text, around, indent⟩ := w
    obtain rfl : around = (o, started) :: outer := ha
    show _ = _
    simp [Piece.texts]
  | cons p pieces ih =>
    obtain ⟨⟨b, e, c, hfound⟩, hshows, hapart⟩ := hpieces p List.mem_cons_self
    -- After the first piece the object is open with something in it.
    have hrest := ih (fun q hq => hpieces q (List.mem_cons_of_mem _ hq))
      { w with
        around := (o, true) :: outer
        text := (leadText started p.key place ++ p.text).reverse ++ w.text }
      true hindent rfl (fun q hq => houter q (List.mem_cons_of_mem _ hq))
    rw [List.map_cons, List.cons_append]
    generalize pieces.map (fun p => WriteStep.property o p.key place) ++ rest = steps at hrest ⊢
    have hfirst : Runs r 1 { w with steps := .property o p.key place :: steps }
        { w with steps := .value p.value p.key place :: steps } := by
      refine runs_one ?_
      unfold step
      dsimp only
      rw [hfound]
      rfl
    have hvalue := hshows w p.key place steps hindent (by
      intro i hmem
      rw [ha, List.map_cons, List.mem_cons] at hmem
      rcases hmem with rfl | hmem
      · exact hapart
      · exact houter p List.mem_cons_self i hmem)
    rw [lead_part (w := { w with steps }) hindent hplace ha] at hvalue
    have hcosts : Piece.costs (p :: pieces) = 1 + (p.cost + Piece.costs pieces) := by
      simp only [Piece.costs, List.map_cons, List.sum_cons]
      omega
    rw [hcosts]
    refine hfirst.trans (hvalue.trans ?_)
    simpa [add, Piece.texts] using hrest

/-- An object that is open is written up to its end. -/
theorem runs_open {pieces : List Piece} (hpieces : ∀ p ∈ pieces, p.In r o) {place : WritePlace}
    (hplace : place ≠ .top) (hindent : w.indent = [])
    (houter : ∀ p ∈ pieces, ∀ i ∈ w.around.map Prod.fst, i < p.lo ∨ p.hi ≤ i) (first last : UInt16) :
    Runs r (Piece.costs pieces + 1)
      { w.add [first] with
        steps := pieces.map (fun p => .property o p.key place) ++ .close last :: w.steps
        around := (o, false) :: w.around }
      (w.add (first :: (Piece.texts place false pieces ++ [last]))) := by
  have hrun := runs_pieces hpieces hplace { w.add [first] with around := (o, false) :: w.around } false
    w.around (.close last :: w.steps) hindent rfl houter
  refine hrun.trans (runs_one ?_)
  obtain ⟨steps, text, around, indent⟩ := w
  obtain rfl : indent = [] := hindent
  simp [step, add, newline]

theorem any_around {w : Writing} (h : ∀ i ∈ w.around.map Prod.fst, i < lo ∨ hi ≤ i)
    (ho : lo ≤ o ∧ o < hi) : w.around.any (·.1 == o) = false := by
  rw [List.any_eq_false]
  intro a ha hsame
  obtain rfl : a.1 = o := by simpa using hsame
  rcases h a.1 (List.mem_map_of_mem ha) with hlt | hle
  · exact Nat.not_lt.2 ho.1 hlt
  · exact Nat.not_lt.2 hle ho.2

theorem shows_enter {pieces : List Piece} (hpieces : ∀ p ∈ pieces, p.In r o)
    (hwithin : Piece.Within lo hi pieces) (ho : lo ≤ o ∧ o < hi) {place : WritePlace}
    (hplace : place ≠ .top) {first last : UInt16} (hrep : replacement r (.object o) = none)
    (hcallable : (r.obj o).isCallable = false) (hboxed : ∀ v, (r.obj o).kind ≠ .boxed v)
    (henter : ∀ w : Writing, w.around.any (·.1 == o) = false → enter r w o =
      .more { w.add [first] with
        steps := pieces.map (fun p => .property o p.key place) ++ .close last :: w.steps
        around := (o, false) :: w.around }) :
    Shows r (.object o) (first :: (Piece.texts place false pieces ++ [last]))
      (Piece.costs pieces + 3) lo hi := by
  intro w key p rest hindent haround
  obtain ⟨hindent', -, hsame⟩ := lead_spec (w := { w with steps := rest }) hindent key p
  have haround' : ∀ i ∈ (({ w with steps := rest } : Writing).lead key p).around.map Prod.fst,
      i < lo ∨ hi ≤ i := by
    rw [hsame]
    exact haround
  have hplain : plain r { w with steps := rest } (.object o) key p =
      enter r (({ w with steps := rest } : Writing).lead key p) o := by
    unfold plain
    dsimp only
    rw [hcallable, if_neg Bool.false_ne_true]
    split
    · rename_i v hv
      exact absurd hv (hboxed v)
    · rfl
  have hrun := runs_open (w := ({ w with steps := rest } : Writing).lead key p) hpieces hplace hindent'
    (by
      intro q hq i hi
      obtain ⟨hlo, hhi⟩ := hwithin q hq
      exact (haround' i hi).imp (Nat.lt_of_lt_of_le · hlo) (Nat.le_trans hhi ·)) first last
  rw [show Piece.costs pieces + 3 = 2 + (Piece.costs pieces + 1) by omega]
  exact (runs_value hrep (hplain.trans (henter _ (any_around haround' ho)))).trans hrun

/-- What an array shows is what its items show, with commas between them. -/
theorem shows_items {pieces : List Piece} (hpieces : ∀ p ∈ pieces, p.In r o)
    (hwithin : Piece.Within lo hi pieces) (ho : lo ≤ o ∧ o < hi) {items : Array (Option Value)}
    (hkind : (r.obj o).kind = .array items) (hrep : replacement r (.object o) = none)
    (hkeys : (List.range items.size).map indexKey = pieces.map Piece.key) :
    Shows r (.object o) (91 :: (Piece.texts .item false pieces ++ [93]))
      (Piece.costs pieces + 3) lo hi := by
  refine shows_enter hpieces hwithin ho (by decide) hrep ?_ ?_ fun w hopen => ?_
  · unfold Obj.isCallable
    rw [hkind]
  · rw [hkind]
    intro v h
    cases h
  · have hinner := congrArg (List.map fun k => WriteStep.property o k .item) hkeys
    rw [List.map_map, List.map_map] at hinner
    unfold enter
    rw [hopen, if_neg Bool.false_ne_true]
    dsimp only
    rw [hkind]
    dsimp only
    rw [show (List.range items.size).map (fun i => WriteStep.property o (indexKey i) .item) = _ from
      hinner]
    rfl

/-! ## Parts that are written as JSON values -/

/-- A part of an object or an array: the value that is found there, the JSON value that it stands for,
that value as it is written, and the numbers of its objects. -/
structure Part where
  name : String
  value : Value
  json : Json
  written : Json
  cost : Nat
  lo : ObjId
  hi : ObjId

namespace Part

def key (p : Part) : Units := Units.ofString p.name

def piece (p : Part) : Piece :=
  { key := p.key, value := p.value, text := Units.ofString (Json.compact p.written)
    cost := p.cost, lo := p.lo, hi := p.hi }

/-- What is found in an object under the name of the part is the part. -/
abbrev In (p : Part) (r : Realm) (o : ObjId) : Prop := p.piece.In r o

theorem isIn {p : Part} (hfound : ∃ b e c, r.find o p.key = some ⟨.data p.value b, e, c⟩)
    (hshows : Shows r p.value (Units.ofString (Json.compact p.written)) p.cost p.lo p.hi)
    (hapart : o < p.lo ∨ p.hi ≤ o) : p.In r o := ⟨hfound, hshows, hapart⟩

theorem texts_item (parts : List Part) (started : Bool) :
    Piece.texts .item started (parts.map piece) =
      (if started ∧ parts ≠ [] then [44] else []) ++
        Units.ofString (Json.compactItems (parts.map written)) := by
  induction parts generalizing started with
  | nil => simp [Piece.texts, Json.compactItems]; rfl
  | cons p parts ih =>
    have hcomma : Units.ofString "," = [44] := by decide
    rw [List.map_cons, Piece.texts, ih]
    cases parts with
    | nil => cases started <;> simp [leadText, piece, Json.compactItems, Units.ofString, Units.ofChars]
    | cons q parts =>
      cases started <;>
        simp [leadText, piece, Json.compactItems, Units.ofString_append, hcomma]

theorem texts_field (parts : List Part) (started : Bool) :
    Piece.texts .field started (parts.map piece) =
      (if started ∧ parts ≠ [] then [44] else []) ++
        Units.ofString (Json.compactFields (parts.map fun p => (p.name, p.written))) := by
  induction parts generalizing started with
  | nil => simp [Piece.texts, Json.compactFields]; rfl
  | cons p parts ih =>
    have hcomma : Units.ofString "," = [44] := by decide
    have hcolon : Units.ofString ":" = [58] := by decide
    rw [List.map_cons, Piece.texts, ih]
    cases parts with
    | nil =>
      cases started <;>
        simp [leadText, piece, key, quote_ofString, Json.compactFields, Units.ofString_append,
          hcolon] <;> rfl
    | cons q parts =>
      cases started <;>
        simp [leadText, piece, key, quote_ofString, Json.compactFields, Units.ofString_append, hcomma,
          hcolon]

/-- How long it takes to write parts. -/
def costs (parts : List Part) : Nat := (parts.map fun p => p.cost + 1).sum

theorem costs_pieces (parts : List Part) : Piece.costs (parts.map piece) = costs parts := by
  unfold Piece.costs
  rw [List.map_map]
  rfl

/-- The parts of something lie within its numbers. -/
def Within (lo hi : ObjId) (parts : List Part) : Prop := ∀ p ∈ parts, lo ≤ p.lo ∧ p.hi ≤ hi

theorem Within.pieces {parts : List Part} (h : Within lo hi parts) :
    Piece.Within lo hi (parts.map piece) := by
  intro q hq
  obtain ⟨p, hp, rfl⟩ := List.mem_map.1 hq
  exact h p hp

theorem in_pieces {parts : List Part} (h : ∀ p ∈ parts, p.In r o) :
    ∀ q ∈ parts.map piece, q.In r o := by
  intro q hq
  obtain ⟨p, hp, rfl⟩ := List.mem_map.1 hq
  exact h p hp

end Part

/-- What an object shows is what its enumerable properties show. -/
theorem shows_object {parts : List Part} (hparts : ∀ p ∈ parts, p.In r o)
    (hwithin : Part.Within lo hi parts) (ho : lo ≤ o ∧ o < hi) (hkind : (r.obj o).kind = .plain)
    (hrep : replacement r (.object o) = none)
    (hkeys : ((r.obj o).entries.filter (·.2.enumerable)).map Prod.fst = parts.map Part.key) :
    Shows r (.object o) (Units.ofString (Json.compact (.obj (parts.map fun p => (p.name, p.written)))))
      (Part.costs parts + 3) lo hi := by
  have htext : Units.ofString (Json.compact (.obj (parts.map fun p => (p.name, p.written)))) =
      123 :: (Piece.texts .field false (parts.map Part.piece) ++ [125]) := by
    rw [Part.texts_field, Json.compact, Units.ofString_append, Units.ofString_append]
    simp only [Bool.false_eq_true, false_and, if_false, List.nil_append]
    rfl
  rw [htext, ← Part.costs_pieces]
  refine shows_enter (Part.in_pieces hparts) hwithin.pieces ho (by decide) hrep ?_ ?_ fun w hopen => ?_
  · unfold Obj.isCallable
    rw [hkind]
  · rw [hkind]
    intro v h
    cases h
  · unfold enter
    rw [hopen, if_neg Bool.false_ne_true]
    dsimp only
    rw [hkind]
    dsimp only
    rw [hkeys, List.map_map, List.map_map]
    rfl

/-- What an array shows is what its items show. -/
theorem shows_array {parts : List Part} (hparts : ∀ p ∈ parts, p.In r o)
    (hwithin : Part.Within lo hi parts) (ho : lo ≤ o ∧ o < hi) {items : Array (Option Value)}
    (hkind : (r.obj o).kind = .array items) (hrep : replacement r (.object o) = none)
    (hkeys : (List.range items.size).map indexKey = parts.map Part.key) :
    Shows r (.object o) (Units.ofString (Json.compact (.arr (parts.map Part.written))))
      (Part.costs parts + 3) lo hi := by
  have htext : Units.ofString (Json.compact (.arr (parts.map Part.written))) =
      91 :: (Piece.texts .item false (parts.map Part.piece) ++ [93]) := by
    rw [Part.texts_item, Json.compact, Units.ofString_append, Units.ofString_append]
    simp only [Bool.false_eq_true, false_and, if_false, List.nil_append]
    rfl
  rw [htext, ← Part.costs_pieces]
  refine shows_items (Part.in_pieces hparts) hwithin.pieces ho hkind hrep ?_
  rw [hkeys, List.map_map]
  rfl

end Writing

end Guest

end ScriptSandbox
