import ScriptSandbox.Markup.Event
import ScriptSandbox.Text.Category

/-!
# The text of markup

`contentOf` gathers the texts of a sequence of events, without those of scripts and styles;
`stripTags` does what it can with a source that is not well formed.
-/

namespace ScriptSandbox.Markup

/-! ## Entities -/

/-- The character of a number in the given base, if all digits are of that base and there are at
most `longest`. -/
def numbered (base longest : Nat) (digits : List Char) : Option Char :=
  if longest < digits.length then none
  else do
    let values ← digits.mapM fun c => (Text.hexDigit? c).filter (· < base)
    let n := values.foldl (fun n d => base * n + d) 0
    if n ≠ 0 ∧ n.isValidChar then some (Char.ofNat n) else none

/-- The character of an entity, by what stands between `&` and `;`. -/
def entity (name : List Char) : Option Char :=
  match name with
  | '#' :: 'x' :: digits => numbered 16 6 digits
  | '#' :: digits => numbered 10 7 digits
  | _ =>
    match String.ofList name with
    | "lt" => some '<'
    | "gt" => some '>'
    | "amp" => some '&'
    | "apos" => some '\''
    | "quot" => some '"'
    | _ => none

/-- The name of the entity at the front of a text, up to a semicolon. -/
def entityName : List Char → Option (List Char × List Char)
  | [] => none
  | c :: rest =>
    if c = ';' then some ([], rest)
    else if c = '&' then none
    else (entityName rest).map fun r => (c :: r.1, r.2)

theorem entityName_length {cs : List Char} {r : List Char × List Char}
    (h : entityName cs = some r) : r.2.length < cs.length := by
  induction cs generalizing r with
  | nil => simp [entityName] at h
  | cons c rest ih =>
    unfold entityName at h
    split at h
    · cases h; simp
    · split at h
      · cases h
      · obtain ⟨_, hr, rfl⟩ := Option.map_eq_some_iff.1 h
        have := ih hr
        exact Nat.lt_succ_of_lt this

/-- Puts characters for entities; none if one is not known. -/
def decodeEntities (cs : List Char) : Option (List Char) :=
  match cs with
  | [] => some []
  | '&' :: rest =>
    match _h : entityName rest with
    | none => none
    | some (name, rest) => do return (← entity name) :: (← decodeEntities rest)
  | c :: rest => (decodeEntities rest).map (c :: ·)
termination_by cs.length
decreasing_by
  all_goals simp_wf
  have := entityName_length _h
  simp only at this
  omega

/-! ## Well-formed markup -/

def trimChars (cs : List Char) : List Char := Text.trimEnd (Text.trimStart cs)

/-- Whether the text of an element is code. -/
def isCode (name : List Char) : Bool := name = "script".toList || name = "style".toList

/-- A trimmed text in a list of its own, unless nothing is left of it. -/
def textPart (cs : List Char) : List (List Char) :=
  if (trimChars cs).isEmpty then [] else [trimChars cs]

/-- The texts of events below `depth` elements of code. -/
def parts (depth : Nat) : List Event → Option (List (List Char))
  | [] => some []
  | .open_ name :: rest => parts (if isCode name then depth + 1 else depth) rest
  | .close name :: rest => parts (if isCode name then depth - 1 else depth) rest
  | .text raw :: rest =>
    if depth = 0 then do return textPart (← decodeEntities raw) ++ (← parts depth rest)
    else parts depth rest
  | .section_ raw :: rest =>
    if depth = 0 then (parts depth rest).map (textPart raw ++ ·) else parts depth rest
  | .empty _ :: rest | .aside :: rest => parts depth rest

def joinLines (lines : List (List Char)) : List Char := ['\n'].intercalate lines

def contentOf (events : List Event) : Option (List Char) := (parts 0 events).map joinLines

/-! ## Sources that are not well formed -/

/-- The letters that are equal to an ASCII letter but for their case; a long s is an s. -/
def sameLetter (c : Char) (letter : Char) : Bool :=
  c.toLower == letter || (letter == 's' && c.toNat == 0x17F)

/-- What follows a word, in any case. -/
def afterWord (word : String) (cs : List Char) : Option (List Char) :=
  if word.length ≤ cs.length ∧ (cs.zip word.toList).all fun (c, l) => sameLetter c l then
    some (cs.drop word.length)
  else none

def afterCodeName (cs : List Char) : Option (List Char) :=
  (afterWord "script" cs).or (afterWord "style" cs)

/-- What follows the start of an opening tag of code, whose name must end there. -/
def afterCodeOpen (cs : List Char) : Option (List Char) :=
  match cs with
  | '<' :: rest => (afterCodeName rest).filter fun rest => !(rest.head?.any Text.isWordChar)
  | _ => none

/-- What follows a closing tag of code. -/
def afterCodeClose (cs : List Char) : Option (List Char) :=
  match cs with
  | '<' :: '/' :: rest => do
    match (← afterCodeName rest).dropWhile Text.isBlank with
    | '>' :: rest => some rest
    | _ => none
  | _ => none

/-- What follows the first closing tag of code. -/
def afterFirstClose : List Char → Option (List Char)
  | [] => none
  | c :: rest => (afterCodeClose (c :: rest)).or (afterFirstClose rest)

theorem afterWord_length {word : String} {cs rest : List Char} (h : afterWord word cs = some rest) :
    rest.length ≤ cs.length := by
  unfold afterWord at h
  split at h
  · cases h
    simp
  · cases h

theorem afterCodeName_length {cs rest : List Char} (h : afterCodeName cs = some rest) :
    rest.length ≤ cs.length := by
  unfold afterCodeName at h
  rcases Option.or_eq_some_iff.1 h with h | h
  · exact afterWord_length h
  · exact afterWord_length h.2

theorem afterCodeOpen_length {cs rest : List Char} (h : afterCodeOpen cs = some rest) :
    rest.length < cs.length := by
  unfold afterCodeOpen at h
  split at h
  · exact Nat.lt_succ_of_le (afterCodeName_length (Option.filter_eq_some_iff.1 h).1)
  · cases h

theorem afterCodeClose_length {cs rest : List Char} (h : afterCodeClose cs = some rest) :
    rest.length < cs.length := by
  unfold afterCodeClose at h
  split at h
  · rename_i tail
    cases hn : afterCodeName tail with
    | none => simp [hn] at h
    | some after =>
      have h₁ := afterCodeName_length hn
      have h₂ := (List.dropWhile_sublist (p := Text.isBlank) (l := after)).length_le
      simp only [hn, Option.bind_eq_bind, Option.bind_some] at h
      split at h
      · rename_i hd
        cases h
        rw [hd] at h₂
        simp only [List.length_cons] at *
        omega
      · cases h
  · cases h

theorem afterFirstClose_length {cs rest : List Char} (h : afterFirstClose cs = some rest) :
    rest.length < cs.length := by
  induction cs with
  | nil => simp [afterFirstClose] at h
  | cons c cs ih =>
    unfold afterFirstClose at h
    rcases Option.or_eq_some_iff.1 h with h | h
    · exact afterCodeClose_length h
    · exact Nat.lt_succ_of_lt (ih h.2)

/-- Puts a space for each piece of code with its tags. -/
def dropCode (cs : List Char) : List Char :=
  match cs with
  | [] => []
  | c :: rest =>
    match _h : (afterCodeOpen (c :: rest)).bind afterFirstClose with
    | some after => ' ' :: dropCode after
    | none => c :: dropCode rest
termination_by cs.length
decreasing_by
  · obtain ⟨body, h₁, h₂⟩ := Option.bind_eq_some_iff.1 _h
    have := afterCodeOpen_length h₁
    have := afterFirstClose_length h₂
    omega
  · simp

/-- Puts a line break for each tag. -/
def dropTags (cs : List Char) : List Char :=
  match cs with
  | [] => []
  | '<' :: rest =>
    match _h : rest.dropWhile (· ≠ '>') with
    | _ :: after => '\n' :: dropTags after
    | [] => '<' :: dropTags rest
  | c :: rest => c :: dropTags rest
termination_by cs.length
decreasing_by
  · have := (List.dropWhile_sublist (p := (· ≠ '>')) (l := rest)).length_le
    rw [_h] at this
    simp only [List.length_cons] at *
    omega
  all_goals simp

/-- Puts one text for another, from the left and without looking again at what was put. -/
def substitute (old new : List Char) (cs : List Char) : List Char :=
  match cs with
  | [] => []
  | c :: rest =>
    if old.isPrefixOf (c :: rest) then new ++ substitute old new (rest.drop (old.length - 1))
    else c :: substitute old new rest
termination_by cs.length
decreasing_by
  · rw [List.length_drop, List.length_cons]
    omega
  · exact Nat.lt_succ_self _

/-- The entities in the order in which they are decoded; the ampersand comes last, so that nothing
is decoded twice. -/
def plainEntities : List (String × Char) :=
  [("&nbsp;", ' '), ("&lt;", '<'), ("&gt;", '>'), ("&quot;", '"'), ("&#39;", '\''), ("&amp;", '&')]

def decodePlain (cs : List Char) : List Char :=
  plainEntities.foldl (fun cs (name, c) => substitute name.toList [c] cs) cs

/-- The blanks within a line. -/
def isGap (c : Char) : Bool := c = ' ' || c = '\t' || c = '\r' || c = '\x0c' || c = '\x0b'

/-- Puts one space for each run of gaps. -/
def closeGaps (cs : List Char) : List Char :=
  match cs with
  | [] => []
  | c :: rest =>
    if isGap c then ' ' :: closeGaps (rest.dropWhile isGap) else c :: closeGaps rest
termination_by cs.length
decreasing_by
  · have := (List.dropWhile_sublist (p := isGap) (l := rest)).length_le
    simp only [List.length_cons]
    omega
  · simp

/-- What follows the last line break among the blanks at the front of a text. -/
def afterBlankLines : List Char → Option (List Char)
  | [] => none
  | c :: rest =>
    if Text.isBlank c then
      (afterBlankLines rest).or (if c = '\n' then some rest else none)
    else none

theorem afterBlankLines_length {cs rest : List Char} (h : afterBlankLines cs = some rest) :
    rest.length < cs.length := by
  induction cs with
  | nil => simp [afterBlankLines] at h
  | cons c cs ih =>
    unfold afterBlankLines at h
    split at h
    · rcases Option.or_eq_some_iff.1 h with h | ⟨-, h⟩
      · exact Nat.lt_succ_of_lt (ih h)
      · split at h
        · cases h
          exact Nat.lt_succ_self _
        · cases h
    · cases h

/-- Puts one line break for two with nothing but blanks between them. -/
def closeBlankLines (cs : List Char) : List Char :=
  match cs with
  | [] => []
  | c :: rest =>
    match _h : if c = '\n' then afterBlankLines rest else none with
    | some after => '\n' :: closeBlankLines after
    | none => c :: closeBlankLines rest
termination_by cs.length
decreasing_by
  · split at _h
    · exact Nat.lt_succ_of_lt (afterBlankLines_length _h)
    · cases _h
  · exact Nat.lt_succ_self _

def lines (cs : List Char) : List (List Char) :=
  let step (c : Char) (acc : List Char × List (List Char)) : List Char × List (List Char) :=
    if c = '\n' then ([], acc.1 :: acc.2) else (c :: acc.1, acc.2)
  let (first, rest) := cs.foldr step ([], [])
  first :: rest

/-- The trimmed lines of a text that are not blank. -/
def tidy (cs : List Char) : List Char :=
  joinLines (((lines cs).map trimChars).filter (!·.isEmpty))

def stripTags (source : List Char) : List Char :=
  tidy (closeBlankLines (closeGaps (decodePlain (dropTags (dropCode source)))))

/-- The text of a markup source. -/
def textOf (source : String) : String :=
  let wellFormed : Option (List Char) := match events source with
    | .ok es => contentOf es
    | .error _ => none
  String.ofList (wellFormed.getD (stripTags source.toList))

end ScriptSandbox.Markup
