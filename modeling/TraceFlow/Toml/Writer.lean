import TraceFlow.Toml.Document

/-!
# Writing TOML

A document of texts has one of them a line, under its key. Of the forms that can hold a text the
plainest is taken: between double quotes as it stands, between single quotes, between three double
or three single quotes, and only then with escapes.
-/

namespace TraceFlow.Toml

/-- The length of the longest run of a character. -/
def longestRun (c : Char) (text : List Char) : Nat :=
  (text.foldl
    (fun (run, longest) d => if d = c then (run + 1, max longest (run + 1)) else (0, longest))
    (0, 0)).2

/-- A control character that no form can hold as it stands. -/
def isControl (c : Char) : Bool := (c.toNat < 0x20 && c ≠ '\t' && c ≠ '\n') || c.toNat = 0x7F

/-- The forms in which a text can be written. -/
inductive Form where
  | basic
  | literal
  | basicLines
  | literalLines
deriving DecidableEq, Repr

/-- The form in which a text is written. -/
def Form.ofText (text : List Char) : Form :=
  let control := text.any isControl
  let lines := text.contains '\n'
  let backslash := text.contains '\\'
  if !control && !backslash && !lines && longestRun '"' text = 0 then .basic
  else if !control && !lines && longestRun '\'' text = 0 then .literal
  else if !control && !backslash && longestRun '"' text ≤ 2 then .basicLines
  else if !control && longestRun '\'' text ≤ 2 then .literalLines
  else if lines then .basicLines
  else .basic

/-- A number by four digits to the base sixteen, in upper case. -/
def fourDigits (n : Nat) : List Char :=
  let digits := (Nat.toDigits 16 n).map Char.toUpper
  List.replicate (4 - digits.length) '0' ++ digits

/-- The escape of a character that cannot stand between double quotes, if it is one. -/
def escape? (c : Char) : Option (List Char) :=
  match c with
  | '\x08' => some ['\\', 'b']
  | '\t' => some ['\\', 't']
  | '\x0c' => some ['\\', 'f']
  | '\r' => some ['\\', 'r']
  | '\\' => some ['\\', '\\']
  | c => if isControl c then some ('\\' :: 'u' :: fourDigits c.toNat) else none

/-- The characters between double quotes on one line. -/
def writeBasic : List Char → List Char
  | [] => []
  | c :: rest =>
    let written := if c = '"' then ['\\', '"'] else if c = '\n' then ['\\', 'n']
      else (escape? c).getD [c]
    written ++ writeBasic rest

/-- The characters between three double quotes; `quotes` stand in a row before them. -/
def writeBasicLines (quotes : Nat) : List Char → List Char
  | [] => []
  | '"' :: rest =>
    if quotes = 2 then '\\' :: '"' :: writeBasicLines 0 rest
    else '"' :: writeBasicLines (quotes + 1) rest
  | c :: rest => (if c = '\n' then [c] else (escape? c).getD [c]) ++ writeBasicLines 0 rest

/-- A text in quotes. -/
def writeText (text : String) : String :=
  let cs := text.toList
  let start : List Char := if cs.contains '\n' then ['\n'] else []
  String.ofList <|
    match Form.ofText cs with
    | .basic => '"' :: writeBasic cs ++ ['"']
    | .literal => '\'' :: cs ++ ['\'']
    | .basicLines => ['"', '"', '"'] ++ start ++ writeBasicLines 0 cs ++ ['"', '"', '"']
    | .literalLines => ['\'', '\'', '\''] ++ start ++ cs ++ ['\'', '\'', '\'']

/-- One line of a document. -/
def writeLine (key text : String) : String := key ++ " = " ++ writeText text ++ "\n"

/-- A format for programs to run with: one of those that configurations may be kept in. -/
def plain : Format where
  read := parse?
  write texts := some (String.join (texts.map fun (key, text) => writeLine key text))

end TraceFlow.Toml
