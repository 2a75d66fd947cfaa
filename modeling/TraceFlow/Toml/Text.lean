/-!
# Texts in TOML

A text stands between one or three quotes. Between double quotes it may hold escapes, between single
ones it stands as it is. Between three quotes it may run over several lines, and up to two quotes in
a row belong to it.

Every reader here takes the characters behind the opening quotes, and answers the text with the
characters behind the closing ones.
-/

namespace TraceFlow.Toml

/-! ## Characters -/

def isWs (c : Char) : Bool := c = ' ' || c = '\t'

/-- The characters of a key without quotes. -/
def isBareChar (c : Char) : Bool := c.isAlphanum || c = '-' || c = '_'

/-- The characters of a line: no controls but the tab. -/
def isLineChar (c : Char) : Bool := c = '\t' || (0x20 ≤ c.toNat && c.toNat ≠ 0x7F)

/-- The characters that stand for themselves between double quotes. -/
def isBasicChar (c : Char) : Bool := isLineChar c && c ≠ '"' && c ≠ '\\'

/-- The characters of a text between single quotes. -/
def isLiteralChar (c : Char) : Bool := isLineChar c && c ≠ '\''

/-- The value of a digit to the base sixteen. -/
def hexDigit? (c : Char) : Option Nat :=
  if '0' ≤ c ∧ c ≤ '9' then some (c.toNat - '0'.toNat)
  else if 'a' ≤ c ∧ c ≤ 'f' then some (c.toNat - 'a'.toNat + 10)
  else if 'A' ≤ c ∧ c ≤ 'F' then some (c.toNat - 'A'.toNat + 10)
  else none

/-- The character whose code point has the given digits to the base sixteen. -/
def charOfHex? (digits : List Char) : Option Char := do
  let values ← digits.mapM hexDigit?
  let code := values.foldl (fun n d => n * 16 + d) 0
  if code.isValidChar then some (Char.ofNat code) else none

/-- The character that a single letter behind a backslash stands for. -/
def escaped? : Char → Option Char
  | 'b' => some '\x08'
  | 't' => some '\t'
  | 'n' => some '\n'
  | 'f' => some '\x0c'
  | 'r' => some '\r'
  | '"' => some '"'
  | '\\' => some '\\'
  | _ => none

/-- Puts a character in front of what was read, if there is one and the reading went well. -/
def push : Option Char → Option (List Char × List Char) → Option (List Char × List Char)
  | some c, some (text, rest) => some (c :: text, rest)
  | _, _ => none

/-! ## On one line -/

/-- A text between double quotes. -/
def readBasic : List Char → Option (List Char × List Char)
  | [] => none
  | '"' :: rest => some ([], rest)
  | '\\' :: 'u' :: a :: b :: c :: d :: rest => push (charOfHex? [a, b, c, d]) (readBasic rest)
  | '\\' :: 'U' :: a :: b :: c :: d :: e :: f :: g :: h :: rest =>
    push (charOfHex? [a, b, c, d, e, f, g, h]) (readBasic rest)
  | '\\' :: c :: rest => push (escaped? c) (readBasic rest)
  | c :: rest => if isBasicChar c then push (some c) (readBasic rest) else none

/-- A text between single quotes. -/
def readLiteral : List Char → Option (List Char × List Char)
  | [] => none
  | '\'' :: rest => some ([], rest)
  | c :: rest => if isLiteralChar c then push (some c) (readLiteral rest) else none

/-! ## On several lines -/

/-- Where a reader of several lines stands. -/
inductive LineState where
  /-- In the text. -/
  | text
  /-- Behind a backslash that ends its line; only blanks may follow on that line. -/
  | lineEnd
  /-- On the lines behind, where blanks are passed over. -/
  | trimming
deriving DecidableEq

/-- A text between three double quotes. -/
def readBasicLines (state : LineState) : List Char → Option (List Char × List Char)
  | [] => none
  | '\r' :: '\n' :: rest =>
    match state with
    | .text => push (some '\n') (readBasicLines .text rest)
    | _ => readBasicLines .trimming rest
  | '\n' :: rest =>
    match state with
    | .text => push (some '\n') (readBasicLines .text rest)
    | _ => readBasicLines .trimming rest
  | ' ' :: rest =>
    match state with
    | .text => push (some ' ') (readBasicLines .text rest)
    | state => readBasicLines state rest
  | '\t' :: rest =>
    match state with
    | .text => push (some '\t') (readBasicLines .text rest)
    | state => readBasicLines state rest
  | '"' :: '"' :: '"' :: '"' :: '"' :: rest =>
    if state = .lineEnd then none else some (['"', '"'], rest)
  | '"' :: '"' :: '"' :: '"' :: rest => if state = .lineEnd then none else some (['"'], rest)
  | '"' :: '"' :: '"' :: rest => if state = .lineEnd then none else some ([], rest)
  | '"' :: rest =>
    if state = .lineEnd then none else push (some '"') (readBasicLines .text rest)
  | '\\' :: 'u' :: a :: b :: c :: d :: rest =>
    if state = .lineEnd then none
    else push (charOfHex? [a, b, c, d]) (readBasicLines .text rest)
  | '\\' :: 'U' :: a :: b :: c :: d :: e :: f :: g :: h :: rest =>
    if state = .lineEnd then none
    else push (charOfHex? [a, b, c, d, e, f, g, h]) (readBasicLines .text rest)
  | '\\' :: '\r' :: '\n' :: rest =>
    if state = .lineEnd then none else readBasicLines .trimming rest
  | '\\' :: c :: rest =>
    if state = .lineEnd then none
    else if c = '\n' then readBasicLines .trimming rest
    else if isWs c then readBasicLines .lineEnd rest
    else push (escaped? c) (readBasicLines .text rest)
  | c :: rest =>
    if state = .lineEnd then none
    else if isBasicChar c then push (some c) (readBasicLines .text rest)
    else none

/-- A text between three single quotes. -/
def readLiteralLines : List Char → Option (List Char × List Char)
  | [] => none
  | '\r' :: '\n' :: rest => push (some '\n') (readLiteralLines rest)
  | '\n' :: rest => push (some '\n') (readLiteralLines rest)
  | '\'' :: '\'' :: '\'' :: '\'' :: '\'' :: rest => some (['\'', '\''], rest)
  | '\'' :: '\'' :: '\'' :: '\'' :: rest => some (['\''], rest)
  | '\'' :: '\'' :: '\'' :: rest => some ([], rest)
  | '\'' :: rest => push (some '\'') (readLiteralLines rest)
  | c :: rest => if isLiteralChar c then push (some c) (readLiteralLines rest) else none

/-- The characters without a line break at their front. -/
def dropNewline : List Char → List Char
  | '\r' :: '\n' :: rest => rest
  | '\n' :: rest => rest
  | cs => cs

/-! ## All forms -/

/-- A text on one line, from its opening quote on. -/
def readLineText : List Char → Option (String × List Char)
  | '"' :: rest => (readBasic rest).map fun (text, rest) => (String.ofList text, rest)
  | '\'' :: rest => (readLiteral rest).map fun (text, rest) => (String.ofList text, rest)
  | _ => none

/-- A text in any form, from its opening quotes on. -/
def readText : List Char → Option (String × List Char)
  | '"' :: '"' :: '"' :: rest =>
    (readBasicLines .text (dropNewline rest)).map fun (text, rest) => (String.ofList text, rest)
  | '\'' :: '\'' :: '\'' :: rest =>
    (readLiteralLines (dropNewline rest)).map fun (text, rest) => (String.ofList text, rest)
  | cs => readLineText cs

end TraceFlow.Toml
