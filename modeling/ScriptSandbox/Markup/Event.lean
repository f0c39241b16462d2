import ScriptSandbox.Text.Blank

/-!
# Markup events

A document as a sequence of tags, texts and sections. Reading checks that closing tags match the
open ones, and no more: attributes are not looked at, and elements may be left open at the end.
Texts lose the blanks at either end; texts of blanks alone are no events.
-/

namespace ScriptSandbox.Markup

inductive Event
  | open_ (name : List Char)
  | close (name : List Char)
  | empty (name : List Char)
  | text (raw : List Char)
  | section_ (raw : List Char)
  /-- A comment, a document type or a processing instruction. -/
  | aside
deriving DecidableEq, Repr

inductive Fault
  | unknownBang
  | unclosedBang
  | unclosedTag
  | unclosedInstruction
  | emptyDocumentType
  | wrongClose
deriving DecidableEq, Repr

/-- The blanks of markup. -/
def isSpace (c : Char) : Bool := c = ' ' || c = '\t' || c = '\n' || c = '\r'

/-- The blanks behind the name of a closing tag, where form feeds count too. -/
def isNameSpace (c : Char) : Bool := isSpace c || c = '\x0c'

def trimEndBy (p : Char → Bool) (cs : List Char) : List Char := (cs.reverse.dropWhile p).reverse

def nameOf (tag : List Char) : List Char := tag.takeWhile (!isSpace ·)

/-- Splits at the first `stop`, which belongs to neither part; without one all is before it. -/
def splitAtFirst (stop : Char) (cs : List Char) : List Char × List Char :=
  (cs.takeWhile (· ≠ stop), (cs.dropWhile (· ≠ stop)).drop 1)

/-- The content of a tag, up to the first `>` outside quotes. `seen` is in reverse. -/
def splitTag (quote : Option Char) (seen : List Char) : List Char → Option (List Char × List Char)
  | [] => none
  | c :: rest =>
    match quote with
    | some q => splitTag (if c = q then none else some q) (c :: seen) rest
    | none =>
      if c = '>' then some (seen.reverse, rest)
      else splitTag (if c = '\'' ∨ c = '"' then some c else none) (c :: seen) rest

inductive Bang
  | section_
  | comment
  | documentType
deriving DecidableEq, Repr

/-- The difference of the numbers of opening and closing angles. -/
def balance (cs : List Char) : Int :=
  cs.foldl (fun n c => if c = '<' then n + 1 else if c = '>' then n - 1 else n) 0

/-- Whether a `>` behind `seen`, which is in reverse, ends what a bang started. -/
def Bang.endsAt (b : Bang) (seen : List Char) : Bool :=
  match b with
  | .section_ => [']', ']'].isPrefixOf seen
  | .comment => 4 < seen.length && ['-', '-'].isPrefixOf seen
  | .documentType => balance seen == 0

/-- The content from the bang up to its end. -/
def splitBang (b : Bang) (seen : List Char) : List Char → Option (List Char × List Char)
  | [] => none
  | c :: rest =>
    if c = '>' ∧ b.endsAt seen then some (seen.reverse, rest) else splitBang b (c :: seen) rest

theorem splitTag_length {quote : Option Char} {seen cs : List Char} {r : List Char × List Char}
    (h : splitTag quote seen cs = some r) : r.2.length < cs.length := by
  induction cs generalizing quote seen with
  | nil => simp [splitTag] at h
  | cons c rest ih =>
    unfold splitTag at h
    repeat' split at h
    all_goals first
      | exact Nat.lt_succ_of_lt (ih h)
      | (cases h; simp)

theorem splitBang_length {b : Bang} {seen cs : List Char} {r : List Char × List Char}
    (h : splitBang b seen cs = some r) : r.2.length < cs.length := by
  induction cs generalizing seen with
  | nil => simp [splitBang] at h
  | cons c rest ih =>
    unfold splitBang at h
    split at h
    · cases h; simp
    · exact Nat.lt_succ_of_lt (ih h)

theorem splitAtFirst_length (stop : Char) (cs : List Char) :
    (splitAtFirst stop cs).2.length ≤ cs.length := by
  have := (List.dropWhile_sublist (p := (· ≠ stop)) (l := cs)).length_le
  simp only [splitAtFirst, List.length_drop]
  omega

/-- Whether a text starts with another in any case of ASCII letters. -/
def startsAnyCase (start : String) (cs : List Char) : Bool :=
  (start.toList.map Char.toLower).isPrefixOf ((cs.take start.length).map Char.toLower)

/-- The event of a tag that starts with a bang; the leading `!` belongs to `content`. -/
def Bang.event (b : Bang) (content : List Char) : Except Fault Event :=
  match b with
  | .comment => if "!--".toList.isPrefixOf content then .ok .aside else .error .unclosedBang
  | .section_ =>
    if startsAnyCase "![CDATA[" content then
      .ok (.section_ ((content.drop 8).take (content.length - 10)))
    else .error .unclosedBang
  | .documentType =>
    if !startsAnyCase "!DOCTYPE" content then .error .unclosedBang
    else if (content.drop 8).all isSpace then .error .emptyDocumentType
    else .ok .aside

/-- What the character behind a bang announces. -/
def Bang.ofChar : Option Char → Except Fault Bang
  | some '[' => .ok .section_
  | some '-' => .ok .comment
  | some 'D' | some 'd' => .ok .documentType
  | some _ => .error .unknownBang
  | none => .error .unclosedBang

/-- What stands behind an opening angle, up to its end. -/
inductive Tag
  | bang (b : Bang) (content : List Char)
  | close (content : List Char)
  | instruction (content : List Char)
  | open_ (content : List Char)
deriving DecidableEq, Repr

def Tag.read (cs : List Char) : Except Fault (Tag × List Char) :=
  match cs with
  | '!' :: rest =>
    match Bang.ofChar rest.head? with
    | .error e => .error e
    | .ok b =>
      match splitBang b [] cs with
      | none => .error .unclosedBang
      | some (content, rest) => .ok (.bang b content, rest)
  | '/' :: rest => .ok (.close (splitAtFirst '>' rest).1, (splitAtFirst '>' rest).2)
  | '?' :: rest => .ok (.instruction (splitAtFirst '>' rest).1, (splitAtFirst '>' rest).2)
  | _ =>
    match splitTag none [] cs with
    | none => .error .unclosedTag
    | some (content, rest) => .ok (.open_ content, rest)

theorem Tag.read_length {cs rest : List Char} {t : Tag} (h : Tag.read cs = .ok (t, rest)) :
    rest.length ≤ cs.length := by
  unfold Tag.read at h
  split at h
  · split at h
    · cases h
    · split at h
      · cases h
      · rename_i hs
        cases h
        exact Nat.le_of_lt (splitBang_length hs)
  · rename_i rest'
    cases h
    exact Nat.le_succ_of_le (splitAtFirst_length '>' rest')
  · rename_i rest'
    cases h
    exact Nat.le_succ_of_le (splitAtFirst_length '>' rest')
  · split at h
    · cases h
    · rename_i hs
      cases h
      exact Nat.le_of_lt (splitTag_length hs)

/-- The event of a tag and the names of the elements then open, innermost first. -/
def Tag.event (opened : List (List Char)) : Tag → Except Fault (Event × List (List Char))
  | .bang b content => (b.event content).map (·, opened)
  | .close content =>
    let trimmed := trimEndBy isNameSpace content
    let name := if trimmed.isEmpty then content else trimmed
    match opened with
    | expected :: outer => if name = expected then .ok (.close name, outer) else .error .wrongClose
    | [] => .error .wrongClose
  | .instruction content =>
    if 2 ≤ content.length ∧ content.getLast? = some '?' then .ok (.aside, opened)
    else .error .unclosedInstruction
  | .open_ content =>
    if content.getLast? = some '/' then .ok (.empty (nameOf content.dropLast), opened)
    else .ok (.open_ (nameOf content), nameOf content :: opened)

/-- The events from between two tags. -/
def eventsFrom (opened : List (List Char)) (cs : List Char) : Except Fault (List Event) :=
  match _h : cs.dropWhile isSpace with
  | [] => .ok []
  | '<' :: rest =>
    if rest.isEmpty then .ok []
    else
      match _ht : Tag.read rest with
      | .error e => .error e
      | .ok (tag, rest) =>
        match tag.event opened with
        | .error e => .error e
        | .ok (e, opened) => (eventsFrom opened rest).map (e :: ·)
  | c :: rest =>
    let raw := trimEndBy isSpace (c :: rest.takeWhile (· ≠ '<'))
    (eventsFrom opened (rest.dropWhile (· ≠ '<'))).map (.text raw :: ·)
termination_by cs.length
decreasing_by
  all_goals
    have hd := (List.dropWhile_sublist (p := isSpace) (l := cs)).length_le
    rw [_h] at hd
    simp only [List.length_cons] at hd
  · have := Tag.read_length _ht
    omega
  · have := (List.dropWhile_sublist (p := (· ≠ '<')) (l := rest)).length_le
    omega

/-- The events of a document. A byte order mark at its start is dropped. -/
def events (source : String) : Except Fault (List Event) :=
  match source.toList with
  | c :: rest => eventsFrom [] (if c = Char.ofNat 0xFEFF then rest else c :: rest)
  | [] => .ok []

end ScriptSandbox.Markup
