import TraceFlow.Toml.Format
import TraceFlow.Toml.Text

/-!
# How texts are spelled in TOML

TOML 1.0 knows four forms of a text, and in all but the plainest of them one text can be spelled in
many ways. Here stands which text a spelling means, and that whoever reads by these rules, character
by character, reads that text.

A line break of two characters inside of a text is left out: TOML does not say which text it means.
-/

namespace TraceFlow.Toml

/-! ## Characters -/

/-- What stands for a character between double quotes: the character itself or an escape. -/
inductive Stands : List Char → Char → Prop where
  | plain {c : Char} (h : isBasicChar c) : Stands [c] c
  | letter {e c : Char} (h : escaped? e = some c) : Stands ['\\', e] c
  | code {digits : List Char} {c : Char} (hlength : digits.length = 4)
      (h : charOfHex? digits = some c) : Stands ('\\' :: 'u' :: digits) c
  | longCode {digits : List Char} {c : Char} (hlength : digits.length = 8)
      (h : charOfHex? digits = some c) : Stands ('\\' :: 'U' :: digits) c

/-- The characters between double quotes. -/
inductive Basic : (spelling text : List Char) → Prop where
  | nil : Basic [] []
  | cons {unit spelling text : List Char} {c : Char} (hunit : Stands unit c)
      (hrest : Basic spelling text) : Basic (unit ++ spelling) (c :: text)

/-! ## Several lines -/

inductive LineBreak : List Char → Prop where
  | short : LineBreak ['\n']
  | long : LineBreak ['\r', '\n']

inductive Blanks : List Char → Prop where
  | nil : Blanks []
  | ws {c : Char} {rest : List Char} (h : isWs c) (hrest : Blanks rest) : Blanks (c :: rest)
  | line {first rest : List Char} (h : LineBreak first) (hrest : Blanks rest) :
      Blanks (first ++ rest)

/-- A backslash at the end of a line, and all the blanks behind it. -/
inductive Gap : List Char → Prop where
  | mk {blanks first rest : List Char} (hblanks : ∀ c ∈ blanks, isWs c) (hfirst : LineBreak first)
      (hrest : Blanks rest) : Gap ('\\' :: (blanks ++ (first ++ rest)))

def NoBreak (spelling : List Char) : Prop :=
  ∀ c rest, spelling = c :: rest → c ≠ '\n' ∧ c ≠ '\r'

def NoBlank (spelling : List Char) : Prop :=
  NoBreak spelling ∧ ∀ c rest, spelling = c :: rest → isWs c = false

/-- What may stand between three quotes. -/
structure Rules where
  quote : Char
  Stands : List Char → Char → Prop
  /-- What stands there and means nothing. -/
  Gap : List Char → Prop

def basicRules : Rules where
  quote := '"'
  Stands unit c := Toml.Stands unit c ∨ unit = ['\n'] ∧ c = '\n'
  Gap := Gap

def literalRules : Rules where
  quote := '\''
  Stands unit c := unit = [c] ∧ (isLiteralChar c ∨ c = '\n')
  Gap _ := False

/-- The characters between three quotes, where `quotes` of these stand in a row before: there may be
two of them in a row, but no more. -/
inductive Rules.Lines (rules : Rules) : (quotes : Nat) → (spelling text : List Char) → Prop where
  | nil {quotes : Nat} : Lines rules quotes [] []
  | quote {quotes : Nat} {spelling text : List Char} (hfew : quotes < 2)
      (hrest : Lines rules (quotes + 1) spelling text) :
      Lines rules quotes (rules.quote :: spelling) (rules.quote :: text)
  | char {quotes : Nat} {unit spelling text : List Char} {c : Char} (hunit : rules.Stands unit c)
      (hrest : Lines rules 0 spelling text) : Lines rules quotes (unit ++ spelling) (c :: text)
  | gap {quotes : Nat} {blanks spelling text : List Char} (hgap : rules.Gap blanks)
      (hstop : NoBlank spelling) (hrest : Lines rules 0 spelling text) :
      Lines rules quotes (blanks ++ spelling) text

/-! ## All forms -/

/-- The text in its quotes. Behind three quotes a line break does not count. -/
inductive Spells : (spelling text : List Char) → Prop where
  | basic {spelling text : List Char} (h : Basic spelling text) :
      Spells ('"' :: (spelling ++ ['"'])) text
  | literal {text : List Char} (h : ∀ c ∈ text, isLiteralChar c) :
      Spells ('\'' :: (text ++ ['\''])) text
  | basicLines {first spelling text : List Char}
      (hfirst : first = [] ∧ NoBreak spelling ∨ LineBreak first)
      (h : basicRules.Lines 0 spelling text) :
      Spells ('"' :: '"' :: '"' :: (first ++ (spelling ++ ['"', '"', '"']))) text
  | literalLines {first spelling text : List Char}
      (hfirst : first = [] ∧ NoBreak spelling ∨ LineBreak first)
      (h : literalRules.Lines 0 spelling text) :
      Spells ('\'' :: '\'' :: '\'' :: (first ++ (spelling ++ ['\'', '\'', '\'']))) text

/-- A key that can stand without quotes. -/
def IsBare (key : String) : Prop := key.toList ≠ [] ∧ ∀ c ∈ key.toList, isBareChar c

/-- A document of texts, each on a line of its own behind its key. -/
inductive Spelled : (texts : List (String × String)) → (document : List Char) → Prop where
  | nil : Spelled [] []
  | cons {key text : String} {spelling document : List Char} {texts : List (String × String)}
      (hkey : IsBare key) (htext : Spells spelling text.toList) (hrest : Spelled texts document) :
      Spelled ((key, text) :: texts)
        (key.toList ++ ' ' :: '=' :: ' ' :: (spelling ++ '\n' :: document))

namespace Format

/-- What is written for texts under bare keys is a document that means them. -/
def WritesTexts (format : Format) : Prop :=
  ∀ texts : List (String × String), (∀ key ∈ texts.map Prod.fst, IsBare key) →
    (texts.map Prod.fst).Nodup →
    ∃ document, format.write texts = some document ∧ Spelled texts document.toList

/-- A document of texts is read as what it means, however they are spelled. -/
def ReadsTexts (format : Format) : Prop :=
  ∀ texts (document : String), Spelled texts document.toList → (texts.map Prod.fst).Nodup →
    format.read document = some (.ofTexts texts)

end Format

end TraceFlow.Toml
