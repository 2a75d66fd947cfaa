import TraceFlow.Text.Printable

/-!
# Quoted text

Log lines and messages show names and paths between double quotes. A quote or a backslash inside is
written behind a backslash, the common controls by their letter, and every other character that
leaves no mark of its own by its code point. Bytes that are no text are written one by one.
-/

namespace TraceFlow.Text

/-- The digits of a number to the base sixteen, in lower case. -/
def hexDigits (n : Nat) : String :=
  String.ofList (Nat.toDigits 16 n)

/-- One character between quotes. -/
def quotedChar (c : Char) : String :=
  match c with
  | '"' => "\\\""
  | '\\' => "\\\\"
  | '\n' => "\\n"
  | '\r' => "\\r"
  | '\t' => "\\t"
  | '\x00' => "\\0"
  | c => if isPrintable c then c.toString else "\\u\x7b" ++ hexDigits c.toNat ++ "\x7d"

/-- The text between double quotes. -/
def quoted (text : String) : String :=
  "\"" ++ String.join (text.toList.map quotedChar) ++ "\""

/-- One byte that belongs to no character: two digits to the base sixteen, in upper case. -/
def quotedByte (b : UInt8) : String :=
  let digits := (Nat.toDigits 16 b.toNat).map Char.toUpper
  "\\x" ++ String.ofList (if digits.length < 2 then '0' :: digits else digits)

/-- The bytes from position `i` on: characters where they can be read, single bytes elsewhere. -/
def quotedFrom (bytes : ByteArray) (i : Nat) : String :=
  if h : i < bytes.size then
    match bytes.utf8DecodeChar? i with
    | some c =>
      have : 0 < c.utf8Size := c.utf8Size_pos
      quotedChar c ++ quotedFrom bytes (i + c.utf8Size)
    | none => quotedByte bytes[i] ++ quotedFrom bytes (i + 1)
  else ""
termination_by bytes.size - i

/-- Bytes between double quotes, read as text where they are text. -/
def quotedBytes (bytes : ByteArray) : String :=
  "\"" ++ quotedFrom bytes 0 ++ "\""

/-- Names in square brackets, each quoted. -/
def quotedList (texts : List String) : String :=
  "[" ++ ", ".intercalate (texts.map quoted) ++ "]"

example : quoted "q\"'\\\n" = "\"q\\\"'\\\\\\n\"" := by decide +kernel

example : quotedByte 0xC3 = "\\xC3" := by decide +kernel

end TraceFlow.Text
