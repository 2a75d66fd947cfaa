import TraceFlow.Toml.Node
import TraceFlow.Toml.Moment
import TraceFlow.Toml.Number

/-!
# Reading TOML documents

Any library that reads documents will do; this is a reader for programs to run with. A document is a
sequence of expressions, one a line: pairs of a key and a value, and headers of tables. The
expressions together make up one table. A document that breaks a rule is no document; what is wrong
with it is not told.
-/

namespace TraceFlow.Toml

/-! ## Blanks and keys -/

def skipWs (cs : List Char) : List Char := cs.dropWhile isWs

/-- Passes over blanks, comments and line breaks; every comment must end with its line. -/
def skipBlanks (inComment : Bool) : List Char → Option (List Char)
  | [] => if inComment then none else some []
  | '\n' :: rest => skipBlanks false rest
  | '\r' :: '\n' :: rest => skipBlanks false rest
  | c :: rest =>
    if inComment then if isLineChar c then skipBlanks true rest else none
    else if isWs c then skipBlanks false rest
    else if c = '#' then skipBlanks true rest
    else some (c :: rest)

/-- Passes over a comment, if there is one, up to the end of its line. -/
def skipComment : List Char → List Char
  | '#' :: rest => rest.dropWhile isLineChar
  | cs => cs

/-- Passes over the rest of a line that holds nothing but blanks and perhaps a comment. -/
def skipLineEnd (cs : List Char) : Option (List Char) :=
  match skipComment (skipWs cs) with
  | [] => some []
  | '\n' :: rest => some rest
  | '\r' :: '\n' :: rest => some rest
  | _ => none

/-- One part of a key, bare or quoted. -/
def readKeyPart : List Char → Option (String × List Char)
  | '"' :: rest => readLineText ('"' :: rest)
  | '\'' :: rest => readLineText ('\'' :: rest)
  | cs =>
    let name := cs.takeWhile isBareChar
    if name.isEmpty then none else some (String.ofList name, cs.dropWhile isBareChar)

/-- The most parts that a key may have, and the most arrays or tables that may be nested. -/
def depthLimit : Nat := 79

/-- The parts of a key with dots between them, at most `limit`. -/
def readKeyParts : (limit : Nat) → List Char → Option (List String × List Char)
  | 0, _ => none
  | limit + 1, cs => do
    let (part, rest) ← readKeyPart (skipWs cs)
    match skipWs rest with
    | '.' :: rest =>
      let (parts, rest) ← readKeyParts limit rest
      return (part :: parts, rest)
    | rest => return ([part], rest)

/-- A key: the path of the table that it belongs to, and its name there. -/
abbrev Key := List String × String

/-- The last part of a key is its name, the others are its path. -/
def Key.ofParts? : List String → Option Key
  | [] => none
  | [name] => some ([], name)
  | part :: parts => (ofParts? parts).map fun (path, name) => (part :: path, name)

def readKey (cs : List Char) : Option (Key × List Char) := do
  let (parts, rest) ← readKeyParts depthLimit cs
  let key ← Key.ofParts? parts
  return (key, rest)

/-! ## Values -/

def skipKeyword : List Char → Option (List Char)
  | 't' :: 'r' :: 'u' :: 'e' :: rest => some rest
  | 'f' :: 'a' :: 'l' :: 's' :: 'e' :: rest => some rest
  | _ => none

/-- Passes over a date, a number or a truth value. -/
def skipScalar (cs : List Char) : Option (List Char) :=
  skipMoment cs <|> skipFloat cs <|> (readInteger cs).map Prod.snd <|> skipKeyword cs

section

variable (value : List Char → Option (Node × List Char))

/-- The nodes of an array, at most `limit`, up to its closing bracket. -/
def readItems : (limit : Nat) → List Char → Option (List Node × List Char)
  | 0, _ => none
  | limit + 1, cs => do
    match ← skipBlanks false cs with
    | ']' :: rest => return ([], rest)
    | cs =>
      let (node, rest) ← value cs
      match ← skipBlanks false rest with
      | ',' :: rest =>
        let (nodes, rest) ← readItems limit rest
        return (node :: nodes, rest)
      | ']' :: rest => return ([node], rest)
      | _ => none

/-- A key with its value. -/
def readPair (cs : List Char) : Option ((Key × Node) × List Char) := do
  let (key, rest) ← readKey cs
  let (node, rest) ← value (skipWs (← skipChar '=' rest))
  return ((key, node), rest)

/-- The pairs of a table between braces, at least one and at most `limit`, up to its end. -/
def readPairs : (limit : Nat) → List Char → Option (List (Key × Node) × List Char)
  | 0, _ => none
  | limit + 1, cs => do
    let (pair, rest) ← readPair value cs
    match skipWs rest with
    | ',' :: rest =>
      let (pairs, rest) ← readPairs limit rest
      return (pair :: pairs, rest)
    | '\x7d' :: rest => return ([pair], rest)
    | _ => none

/-- A table between braces, behind its opening brace. -/
def readInlineTable (cs : List Char) : Option (Node × List Char) :=
  match skipWs cs with
  | '\x7d' :: rest => some (.table .inline [], rest)
  | cs => do
    let (pairs, rest) ← readPairs value cs.length cs
    let entries ← Entries.ofPairs pairs
    return (.table .inline entries, rest)

end

/-- A value in which at most `depth` arrays or tables are nested. -/
def readValue (depth : Nat) (cs : List Char) : Option (Node × List Char) :=
  match cs with
  | '"' :: _ => (readText cs).map fun (text, rest) => (.text text, rest)
  | '\'' :: _ => (readText cs).map fun (text, rest) => (.text text, rest)
  | '[' :: rest =>
    match depth with
    | 0 => none
    | depth + 1 =>
      (readItems (readValue depth) rest.length rest).map fun (nodes, rest) => (.array nodes, rest)
  | '\x7b' :: rest =>
    match depth with
    | 0 => none
    | depth + 1 => readInlineTable (readValue depth) rest
  | cs => (skipScalar cs).map fun rest => (.scalar, rest)
termination_by structural depth

/-! ## Expressions -/

/-- One line of a document that says something. -/
inductive Expression where
  | pair (key : Key) (node : Node)
  /-- The header of a table, in single brackets. -/
  | table (key : Key)
  /-- The header of one more table of a row, in double brackets. -/
  | row (key : Key)

/-- One expression with the rest of its line. -/
def readExpression : List Char → Option (Expression × List Char)
  | '[' :: '[' :: rest => do
    let (key, rest) ← readKey rest
    let rest ← skipLineEnd (← skipChar ']' (← skipChar ']' rest))
    return (.row key, rest)
  | '[' :: rest => do
    let (key, rest) ← readKey rest
    let rest ← skipLineEnd (← skipChar ']' rest)
    return (.table key, rest)
  | cs => do
    let ((key, node), rest) ← readPair (readValue depthLimit) cs
    let rest ← skipLineEnd rest
    return (.pair key node, rest)

/-- The expressions of a document of at most `limit` lines. -/
def readExpressions : (limit : Nat) → List Char → Option (List Expression)
  | 0, _ => none
  | limit + 1, cs =>
    match skipWs cs with
    | [] => some []
    | cs =>
      match skipLineEnd cs with
      | some rest => readExpressions limit rest
      | none => do
        let (expression, rest) ← readExpression cs
        let expressions ← readExpressions limit rest
        return expression :: expressions

/-- The characters without a byte order mark at their front. -/
def dropMark : List Char → List Char
  | '\uFEFF' :: rest => rest
  | cs => cs

/-- The expressions of a document. -/
def expressions? (text : String) : Option (List Expression) :=
  let cs := dropMark text.toList
  readExpressions (cs.length + 1) cs

/-! ## The table of a document -/

/-- A document read so far: its table, and the path of the table that pairs now go into. -/
structure Draft where
  entries : Entries := []
  current : List String := []

/-- Adds an expression to a document. -/
def Draft.add (draft : Draft) : Expression → Option Draft
  | .pair (path, key) node => do
    let entries ← Entries.descend false (Entries.addPair path key node) draft.current .header
      draft.entries
    return { draft with entries }
  | .table (path, key) => do
    let entries ← Entries.addTable path key draft.entries
    return { entries, current := path ++ [key] }
  | .row (path, key) => do
    let entries ← Entries.addRow path key draft.entries
    return { entries, current := path ++ [key] }

/-- The table that expressions make up. -/
def tableOf? (expressions : List Expression) : Option Entries :=
  (expressions.foldlM Draft.add {}).map Draft.entries

/-- The table of a document. -/
def parse? (text : String) : Option Table :=
  ((expressions? text).bind tableOf?).map Node.toTable

end TraceFlow.Toml
