/-!
# Formats of documents

Configurations are kept in documents. To read and to write documents is left to a library: it is
known here by what it answers, and only of a text does it matter what it says.
-/

namespace TraceFlow.Toml

/-- A value in a document. -/
inductive Item where
  | text (text : String)
  /-- A number, a truth value, a date or a time. -/
  | scalar
  | array (items : List Item)
  | table (entries : List (String × Item))

/-- Items under their keys, in the order in which they come. -/
abbrev Table := List (String × Item)

/-- The table of texts under their keys. -/
def Table.ofTexts (texts : List (String × String)) : Table :=
  texts.map fun (key, text) => (key, .text text)

/-- A library for documents. -/
structure Format where
  /-- The table of a document; a document that is not well formed has none. -/
  read : String → Option Table
  /-- The document of texts under their keys, unless it cannot be written. -/
  write : List (String × String) → Option String

end TraceFlow.Toml
