import ScriptSandbox.Text.Case
import ScriptSandbox.Text.Category
import ScriptSandbox.Url.Punycode

/-!
# Domain names

A domain name in ASCII: capital letters and other forms of a character give way to one form, and
labels beyond ASCII are written in punycode after `xn--`.
-/

namespace ScriptSandbox.Domain

/-- Characters that leave no trace in a name. -/
def isIgnored (c : Char) : Bool :=
  let n := c.toNat
  n == 0xAD || n == 0x34F || (0x180B ≤ n && n ≤ 0x180F) || n == 0x200B || n == 0x2060 ||
    n == 0x2064 || (0xFE00 ≤ n && n ≤ 0xFE0F) || n == 0xFEFF || (0xE0100 ≤ n && n ≤ 0xE01EF)

/-- Other forms of characters of a Western alphabet. -/
def compatible : List (Char × String) :=
  [('ª', "a"), ('º', "o"), ('²', "2"), ('³', "3"), ('¹', "1"), ('¼', "1⁄4"), ('½', "1⁄2"),
    ('¾', "3⁄4"), ('µ', "μ"), ('ĳ', "ij"), ('Ĳ', "ij"), ('ŀ', "l·"), ('Ŀ', "l·"), ('ŉ', "ʼn"),
    ('ſ', "s"), ('Ǆ', "dž"), ('ǅ', "dž"), ('ǆ', "dž"), ('Ǉ', "lj"), ('ǈ', "lj"), ('ǉ', "lj"),
    ('Ǌ', "nj"), ('ǋ', "nj"), ('ǌ', "nj"), ('ﬀ', "ff"), ('ﬁ', "fi"), ('ﬂ', "fl"), ('ﬃ', "ffi"),
    ('ﬄ', "ffl"), ('ﬅ', "st"), ('ﬆ', "st"), ('™', "tm"), ('℠', "sm"), ('№', "no"), ('℡', "tel"),
    ('ℂ', "c"), ('ℝ', "r"), ('ℤ', "z"), ('ℕ', "n"), ('ℙ', "p"), ('ℚ', "q"), ('Ω', "ω"),
    ('K', "k"), ('Å', "å"), ('…', "..."), ('İ', "i̇"), ('ẞ', "ß"), ('。', "."), ('．', "."),
    ('｡', ".")]

/-- What stands for a character in a name. -/
def mapped (c : Char) : List Char :=
  let n := c.toNat
  if n < 128 then [c.toLower]
  else if isIgnored c then []
  else
    match compatible.lookup c with
    | some text => text.toList
    | none =>
      if 0xFF01 ≤ n ∧ n ≤ 0xFF5E then [(Char.ofNat (n - 0xFEE0)).toLower]
      else if 0x24B6 ≤ n ∧ n ≤ 0x24CF then [Char.ofNat (n - 0x24B6 + 97)]
      else if 0x24D0 ≤ n ∧ n ≤ 0x24E9 then [Char.ofNat (n - 0x24D0 + 97)]
      else [Text.lowerChar c]

/-- Characters beyond ASCII that no name has: controls, separators and what is not assigned. -/
def isBarred (c : Char) : Bool :=
  128 ≤ c.toNat &&
    (Text.Category.inOneOf ["Cc", "Cf", "Co", "Zs", "Zl", "Zp"] c || !Text.Category.isAssigned c)

def isMark (c : Char) : Bool := 128 ≤ c.toNat && Text.Category.inOneOf ["Mn", "Mc", "Me"] c

/-- ASCII characters that no name has. -/
def isForbidden (c : Char) : Bool :=
  c.toNat < 33 || c.toNat == 127 || "%#/:<>?@[\\]^|".toList.contains c

def isAscii (cs : List Char) : Bool := cs.all (·.toNat < 128)

/-- Whether the characters of a label beyond ASCII may stand there. -/
def isProper (label : List Char) : Bool := !label.any isBarred && !(label.head?.any isMark)

/-- The ASCII form of a label whose characters are mapped. -/
def labelToAscii (label : List Char) : Option (List Char) :=
  if "xn--".toList.isPrefixOf label then
    match isAscii label, Punycode.decode (label.drop 4) with
    | true, some decoded =>
      let kept := decoded.all fun c => mapped c == [c]
      if kept ∧ isProper decoded ∧ !isAscii decoded then some label else none
    | _, _ => none
  else if isAscii label then some label
  else if isProper label then some ("xn--".toList ++ Punycode.encode label)
  else none

/-- The parts of a text between dots. -/
def labels (cs : List Char) : List (List Char) :=
  let step (c : Char) (acc : List Char × List (List Char)) : List Char × List (List Char) :=
    if c = '.' then ([], acc.1 :: acc.2) else (c :: acc.1, acc.2)
  let (first, rest) := cs.foldr step ([], [])
  first :: rest

/-- The ASCII form of a name. -/
def toAscii (name : List Char) : Option (List Char) := do
  let parts ← (labels (name.flatMap mapped)).mapM labelToAscii
  let whole := ['.'].intercalate parts
  if whole.any isForbidden then none else some whole

end ScriptSandbox.Domain
