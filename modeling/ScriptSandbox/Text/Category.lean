import ScriptSandbox.Text.CategoryTable
import ScriptSandbox.Text.Ranges

/-!
# Categories of characters

Every character has one general category; larger classes are unions of categories. A category is
found by its short or its long name, whatever the letter case and the joints of the name. A quoted
text stands between double quotes, with the characters that do not show written by their code points.
-/

namespace ScriptSandbox.Text

/-- A general category with its two names. -/
structure Category where
  short : String
  long : String
  members : Ranges

namespace Category

def assigned : List Category :=
  [⟨"Lu", "Uppercase_Letter", .read CategoryTable.uppercaseLetter⟩,
    ⟨"Ll", "Lowercase_Letter", .read CategoryTable.lowercaseLetter⟩,
    ⟨"Lt", "Titlecase_Letter", .read CategoryTable.titlecaseLetter⟩,
    ⟨"Lm", "Modifier_Letter", .read CategoryTable.modifierLetter⟩,
    ⟨"Lo", "Other_Letter", .read CategoryTable.otherLetter⟩,
    ⟨"Mn", "Nonspacing_Mark", .read CategoryTable.nonspacingMark⟩,
    ⟨"Mc", "Spacing_Mark", .read CategoryTable.spacingMark⟩,
    ⟨"Me", "Enclosing_Mark", .read CategoryTable.enclosingMark⟩,
    ⟨"Nd", "Decimal_Number", .read CategoryTable.decimalNumber⟩,
    ⟨"Nl", "Letter_Number", .read CategoryTable.letterNumber⟩,
    ⟨"No", "Other_Number", .read CategoryTable.otherNumber⟩,
    ⟨"Pc", "Connector_Punctuation", .read CategoryTable.connectorPunctuation⟩,
    ⟨"Pd", "Dash_Punctuation", .read CategoryTable.dashPunctuation⟩,
    ⟨"Ps", "Open_Punctuation", .read CategoryTable.openPunctuation⟩,
    ⟨"Pe", "Close_Punctuation", .read CategoryTable.closePunctuation⟩,
    ⟨"Pi", "Initial_Punctuation", .read CategoryTable.initialPunctuation⟩,
    ⟨"Pf", "Final_Punctuation", .read CategoryTable.finalPunctuation⟩,
    ⟨"Po", "Other_Punctuation", .read CategoryTable.otherPunctuation⟩,
    ⟨"Sm", "Math_Symbol", .read CategoryTable.mathSymbol⟩,
    ⟨"Sc", "Currency_Symbol", .read CategoryTable.currencySymbol⟩,
    ⟨"Sk", "Modifier_Symbol", .read CategoryTable.modifierSymbol⟩,
    ⟨"So", "Other_Symbol", .read CategoryTable.otherSymbol⟩,
    ⟨"Zs", "Space_Separator", .read CategoryTable.spaceSeparator⟩,
    ⟨"Zl", "Line_Separator", .read CategoryTable.lineSeparator⟩,
    ⟨"Zp", "Paragraph_Separator", .read CategoryTable.paragraphSeparator⟩,
    ⟨"Cc", "Control", .read CategoryTable.control⟩,
    ⟨"Cf", "Format", .read CategoryTable.format⟩,
    ⟨"Co", "Private_Use", .read CategoryTable.privateUse⟩]

/-- Unions of categories: two names and the short names of the members. -/
def unions : List (String × String × List String) :=
  [("L", "Letter", ["Lu", "Ll", "Lt", "Lm", "Lo"]),
    ("LC", "Cased_Letter", ["Lu", "Ll", "Lt"]),
    ("M", "Mark", ["Mn", "Mc", "Me"]),
    ("N", "Number", ["Nd", "Nl", "No"]),
    ("P", "Punctuation", ["Pc", "Pd", "Ps", "Pe", "Pi", "Pf", "Po"]),
    ("S", "Symbol", ["Sm", "Sc", "Sk", "So"]),
    ("Z", "Separator", ["Zs", "Zl", "Zp"])]

def isAssigned (c : Char) : Bool := assigned.any (·.members.contains c)

def inOneOf (names : List String) (c : Char) : Bool :=
  assigned.any fun k => names.contains k.short && k.members.contains c

/-- A name without its joints and capital letters. -/
def plainName (name : String) : List Char :=
  (name.toList.filter fun c => c ≠ '_' ∧ c ≠ '-' ∧ c ≠ ' ').map Char.toLower

def named (name short long : String) : Bool :=
  plainName name == plainName short || plainName name == plainName long

/-- The characters of the category or union with a name. -/
def ofName? (name : String) : Option (Char → Bool) :=
  match assigned.find? fun k => named name k.short k.long with
  | some k => some k.members.contains
  | none =>
    match unions.find? fun u => named name u.1 u.2.1 with
    | some u => some (inOneOf u.2.2)
    | none =>
      if named name "Cn" "Unassigned" then some fun c => !isAssigned c
      else if named name "C" "Other" then
        some fun c => inOneOf ["Cc", "Cf", "Co"] c || !isAssigned c
      else none

end Category

def isDecimal (c : Char) : Bool := Category.inOneOf ["Nd"] c

/-- Letters in circles and squares. -/
def isFramedLetter (c : Char) : Bool :=
  let n := c.toNat
  (0x24B6 ≤ n && n ≤ 0x24E9) || (0x1F130 ≤ n && n ≤ 0x1F149) || (0x1F150 ≤ n && n ≤ 0x1F169) ||
    (0x1F170 ≤ n && n ≤ 0x1F189)

/-- Characters of words: letters, marks, digits, connectors and joiners. -/
def isWordChar (c : Char) : Bool :=
  if c.toNat < 128 then c.isAlphanum || c == '_'
  else
    Category.inOneOf ["Lu", "Ll", "Lt", "Lm", "Lo", "Nl", "Mn", "Mc", "Me", "Nd", "Pc"] c ||
      isFramedLetter c || c.toNat == 0x200C || c.toNat == 0x200D

/-- Letters and letter-like characters. -/
def isAlphabetic (c : Char) : Bool :=
  if c.toNat < 128 then c.isAlpha
  else Category.inOneOf ["Lu", "Ll", "Lt", "Lm", "Lo", "Nl"] c || isFramedLetter c

/-! ## Quoted text -/

/-- Characters that leave no mark of their own: controls, formats, separators, private and
unassigned ones, and marks that join the character before them. -/
def isUnseen (c : Char) : Bool :=
  if c.toNat < 128 then c.toNat < 32 || c.toNat == 127
  else
    Category.inOneOf ["Cc", "Cf", "Co", "Zs", "Zl", "Zp", "Mn", "Me"] c || !Category.isAssigned c

def quotedChar (c : Char) : List Char :=
  match c with
  | '"' => ['\\', '"']
  | '\\' => ['\\', '\\']
  | '\n' => ['\\', 'n']
  | '\r' => ['\\', 'r']
  | '\t' => ['\\', 't']
  | c =>
    if c.toNat = 0 then ['\\', '0']
    else if isUnseen c then
      "\\u\x7b".toList ++ Nat.toDigits 16 c.toNat ++ ['\x7d']
    else [c]

def quoted (s : String) : String :=
  String.ofList ('"' :: (s.toList.flatMap quotedChar ++ ['"']))

end ScriptSandbox.Text
