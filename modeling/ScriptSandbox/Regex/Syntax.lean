import ScriptSandbox.Regex.Fault

/-!
# Regular expressions

A pattern as it is written. Flags are switched in place and hold to the end of the group.
-/

namespace ScriptSandbox.Regex

inductive Flag
  | ignoreCase
  | multiLine
  | dotAll
  | swapGreed
  | unicode
  | crlf
  | loose
deriving DecidableEq, Repr

def Flag.ofChar? : Char → Option Flag
  | 'i' => some .ignoreCase
  | 'm' => some .multiLine
  | 's' => some .dotAll
  | 'U' => some .swapGreed
  | 'u' => some .unicode
  | 'R' => some .crlf
  | 'x' => some .loose
  | _ => none

inductive Perl
  | digit
  | space
  | word
deriving DecidableEq, Repr

inductive Look
  | lineStart
  | lineEnd
  | textStart
  | textEnd
  | boundary
  | noBoundary
  | wordStart
  | wordEnd
  | wordStartHalf
  | wordEndHalf
deriving DecidableEq, Repr

/-- A Unicode property: a name alone, or a name and a value. -/
inductive Property
  | named (name : String)
  | valued (name value : String) (negated : Bool)
deriving DecidableEq, Repr

/-- A literal character; `byte` when it was written as two hexadecimal digits. -/
structure Literal where
  char : Char
  byte : Bool
  span : Span
deriving DecidableEq, Repr

inductive SetOp
  | intersection
  | difference
  | symmetricDifference
deriving DecidableEq, Repr

/-- What stands between brackets. -/
inductive SetNode
  | literal (l : Literal)
  | range (first last : Literal)
  | ascii (name : String) (negated : Bool)
  | perl (kind : Perl) (negated : Bool) (span : Span)
  | property (p : Property) (negated : Bool) (span : Span)
  | bracket (inner : SetNode) (negated : Bool) (span : Span)
  | union (items : List SetNode)
  | op (kind : SetOp) (left right : SetNode)
deriving Repr, Inhabited

inductive Node
  | empty
  | flags (set : List (Flag × Bool))
  | literal (l : Literal)
  | dot (span : Span)
  | look (kind : Look)
  | perl (kind : Perl) (negated : Bool) (span : Span)
  | property (p : Property) (negated : Bool) (span : Span)
  | bracket (inner : SetNode) (negated : Bool) (span : Span)
  | repeat (low : Nat) (high : Option Nat) (greedy : Bool) (inner : Node)
  | group (flags : List (Flag × Bool)) (inner : Node)
  | concat (items : List Node)
  | alternate (items : List Node)
deriving Repr, Inhabited

end ScriptSandbox.Regex
