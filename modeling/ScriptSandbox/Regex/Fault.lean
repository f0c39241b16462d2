import ScriptSandbox.Json.Printer

/-!
# Faults in regular expressions

A fault has a kind and the span of the pattern it is about, sometimes a second span. The message
shows the pattern with carets under the spans.
-/

namespace ScriptSandbox.Regex

/-- Part of a pattern, from one character up to another. -/
structure Span where
  first : Nat
  last : Nat
deriving DecidableEq, Repr

inductive FaultKind
  | classEscape
  | classRange
  | classRangeLiteral
  | classOpen
  | decimalEmpty
  | decimalInvalid
  | hexEmpty
  | hexInvalid
  | hexDigit
  | escapeEnd
  | escapeUnknown
  | flagDangling
  | flagTwice
  | negationTwice
  | flagEnd
  | flagUnknown
  | nameTwice
  | nameEmpty
  | nameInvalid
  | nameEnd
  | groupOpen
  | groupUnopened
  | nesting
  | countRange
  | countEmpty
  | countOpen
  | nothingToRepeat
  | boundaryOpen
  | boundaryUnknown
  | boundaryEnd
  | propertyInvalid
  | backreference
  | lookAround
  | unicodeNotAllowed
  | notUtf8
  | propertyUnknown
  | propertyValueUnknown
deriving DecidableEq, Repr

def FaultKind.message : FaultKind → String
  | .classEscape => "invalid escape sequence found in character class"
  | .classRange => "invalid character class range, the start must be <= the end"
  | .classRangeLiteral => "invalid range boundary, must be a literal"
  | .classOpen => "unclosed character class"
  | .decimalEmpty => "decimal literal empty"
  | .decimalInvalid => "decimal literal invalid"
  | .hexEmpty => "hexadecimal literal empty"
  | .hexInvalid => "hexadecimal literal is not a Unicode scalar value"
  | .hexDigit => "invalid hexadecimal digit"
  | .escapeEnd => "incomplete escape sequence, reached end of pattern prematurely"
  | .escapeUnknown => "unrecognized escape sequence"
  | .flagDangling => "dangling flag negation operator"
  | .flagTwice => "duplicate flag"
  | .negationTwice => "flag negation operator repeated"
  | .flagEnd => "expected flag but got end of regex"
  | .flagUnknown => "unrecognized flag"
  | .nameTwice => "duplicate capture group name"
  | .nameEmpty => "empty capture group name"
  | .nameInvalid => "invalid capture group character"
  | .nameEnd => "unclosed capture group name"
  | .groupOpen => "unclosed group"
  | .groupUnopened => "unopened group"
  | .nesting => "exceed the maximum number of nested parentheses/brackets (250)"
  | .countRange => "invalid repetition count range, the start must be <= the end"
  | .countEmpty => "repetition quantifier expects a valid decimal"
  | .countOpen => "unclosed counted repetition"
  | .nothingToRepeat => "repetition operator missing expression"
  | .boundaryOpen =>
    "special word boundary assertion is either unclosed or contains an invalid character"
  | .boundaryUnknown =>
    "unrecognized special word boundary assertion, valid choices are: " ++
      "start, end, start-half or end-half"
  | .boundaryEnd =>
    "found either the beginning of a special word boundary or a bounded repetition on a \\b " ++
      "with an opening brace, but no closing brace"
  | .propertyInvalid => "invalid Unicode character class"
  | .backreference => "backreferences are not supported"
  | .lookAround => "look-around, including look-ahead and look-behind, is not supported"
  | .unicodeNotAllowed => "Unicode not allowed here"
  | .notUtf8 => "pattern can match invalid UTF-8"
  | .propertyUnknown => "Unicode property not found"
  | .propertyValueUnknown => "Unicode property value not found"

structure Fault where
  kind : FaultKind
  span : Span
  second : Option Span := none
deriving DecidableEq, Repr

/-- The lines of a text, each without its line end. -/
def textLines (cs : List Char) : List (List Char) :=
  let step (c : Char) (acc : List Char × List (List Char)) : List Char × List (List Char) :=
    if c = '\n' then ([], acc.1 :: acc.2) else (c :: acc.1, acc.2)
  let (first, rest) := cs.foldr step ([], [])
  let all := first :: rest
  let all := if all.getLast? = some [] then all.dropLast else all
  all.map fun l => if l.getLast? = some '\r' then l.dropLast else l

/-- The line and the column of a character, both from one. -/
def placeOf (cs : List Char) (index : Nat) : Nat × Nat :=
  (cs.take index).foldl
    (fun place c => if c = '\n' then (place.1 + 1, 1) else (place.1, place.2 + 1)) (1, 1)

/-- Carets under columns, for spans in order. -/
def carets (pos : Nat) : List (Nat × Nat) → List Char
  | [] => []
  | (first, last) :: rest =>
    let gap := List.replicate (first - 1 - pos) ' '
    let marks := List.replicate (max 1 (last - first)) '^'
    gap ++ marks ++ carets (pos + gap.length + marks.length) rest

namespace Fault

/-- A span by line and column. -/
structure Placed where
  firstLine : Nat
  firstColumn : Nat
  lastLine : Nat
  lastColumn : Nat

def place (cs : List Char) (s : Span) : Placed :=
  let (l, c) := placeOf cs s.first
  let (m, d) := placeOf cs s.last
  ⟨l, c, m, d⟩

def message (f : Fault) (pattern : String) : String :=
  let cs := pattern.toList
  let placed := (f.span :: f.second.toList).map (place cs)
  let ordered := placed.mergeSort fun a b =>
    a.firstLine < b.firstLine ∨ (a.firstLine = b.firstLine ∧ a.firstColumn ≤ b.firstColumn)
  let single := ordered.filter fun p => p.firstLine = p.lastLine
  let several := ordered.filter fun p => p.firstLine ≠ p.lastLine
  let lines := textLines cs
  let count := lines.length + (if cs.getLast? = some '\n' then 1 else 0)
  let width := if count ≤ 1 then 0 else (decimalDigits count).length
  let notate (i : Nat) (line : List Char) : List Char :=
    let number := decimalDigits (i + 1)
    let head := if width = 0 then "    ".toList
      else List.replicate (width - number.length) ' ' ++ number ++ ": ".toList
    let spans := (single.filter fun p => p.firstLine = i + 1).map fun p =>
      (p.firstColumn, p.lastColumn)
    let padding := if width = 0 then 4 else width + 2
    let notes := if spans = [] then []
      else List.replicate padding ' ' ++ carets 0 spans ++ ['\n']
    head ++ line ++ '\n' :: notes
  let notated := String.ofList (lines.zipIdx.flatMap fun (l, i) => notate i l)
  let head := "regex parse error:\n"
  if cs.contains '\n' then
    let divider := String.ofList (List.replicate 79 '~' ++ ['\n'])
    let notes := several.map fun p =>
      "on line " ++ toString p.firstLine ++ " (column " ++ toString p.firstColumn ++
        ") through line " ++ toString p.lastLine ++ " (column " ++ toString (p.lastColumn - 1) ++
        ")"
    let notes := if several.isEmpty then "" else "\n".intercalate notes ++ "\n"
    head ++ divider ++ notated ++ divider ++ notes ++ "error: " ++ f.kind.message
  else head ++ notated ++ "error: " ++ f.kind.message

end Fault

end ScriptSandbox.Regex
