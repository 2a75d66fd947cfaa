import TraceFlow.Toml.Text

/-!
# Numbers in TOML

Integers have to fit into sixty-four bits, and a floating-point number must not be so large that it
could only be read as positive infinity. Single underscores may stand between digits.
-/

namespace TraceFlow.Toml

/-! ## Digits -/

def isOctal (c : Char) : Bool := '0' ≤ c && c ≤ '7'

def isBinary (c : Char) : Bool := c = '0' || c = '1'

def isHex (c : Char) : Bool := (hexDigit? c).isSome

/-- The digits at the front, each but the first perhaps behind an underscore. -/
def moreDigits (isDigit : Char → Bool) : List Char → List Char × List Char
  | '_' :: c :: rest =>
    if isDigit c then
      let (digits, rest) := moreDigits isDigit rest
      (c :: digits, rest)
    else ([], '_' :: c :: rest)
  | c :: rest =>
    if isDigit c then
      let (digits, rest) := moreDigits isDigit rest
      (c :: digits, rest)
    else ([], c :: rest)
  | [] => ([], [])

/-- One digit or more, without the underscores between them. -/
def readDigits (isDigit : Char → Bool) : List Char → Option (List Char × List Char)
  | c :: rest =>
    if isDigit c then
      let (digits, rest) := moreDigits isDigit rest
      some (c :: digits, rest)
    else none
  | [] => none

/-- The number that digits stand for. -/
def valueOf (base : Nat) (digits : List Char) : Nat :=
  digits.foldl (fun n c => n * base + (hexDigit? c).getD 0) 0

/-- A sign, if there is one: whether the number is negative, and the characters behind. -/
def readSign : List Char → Bool × List Char
  | '+' :: rest => (false, rest)
  | '-' :: rest => (true, rest)
  | cs => (false, cs)

/-- A whole number to the base ten: whether it is negative, and its digits. No leading zeros. -/
def readWhole (cs : List Char) : Option ((Bool × List Char) × List Char) :=
  match readSign cs with
  | (negative, '0' :: rest) => some ((negative, ['0']), rest)
  | (negative, cs) =>
    (readDigits Char.isDigit cs).map fun (digits, rest) => ((negative, digits), rest)

/-! ## Integers -/

/-- The first number that no signed 64-bit integer holds. -/
def int64Limit : Nat := Nat.pow 2 63

/-- A number to another base than ten, behind the sign of its base. -/
def readBased (base : Nat) (isDigit : Char → Bool) (cs : List Char) : Option (Int × List Char) := do
  let (digits, rest) ← readDigits isDigit cs
  let n := valueOf base digits
  if n < int64Limit then some ((n : Int), rest) else none

def readInteger : List Char → Option (Int × List Char)
  | '0' :: 'x' :: rest => readBased 16 isHex rest
  | '0' :: 'o' :: rest => readBased 8 isOctal rest
  | '0' :: 'b' :: rest => readBased 2 isBinary rest
  | cs => do
    let ((negative, digits), rest) ← readWhole cs
    let n := valueOf 10 digits
    if negative then if n ≤ int64Limit then some (-(n : Int), rest) else none
    else if n < int64Limit then some ((n : Int), rest) else none

/-! ## Floating-point numbers -/

/-- The power of ten behind a number, if there is one. -/
def readExponent : List Char → Option (Int × List Char)
  | c :: rest =>
    if c = 'e' || c = 'E' then
      let (negative, rest) := readSign rest
      (readDigits Char.isDigit rest).map fun (digits, rest) =>
        let n : Int := valueOf 10 digits
        (if negative then -n else n, rest)
    else none
  | [] => none

/-- From this number on the nearest number of binary64 is infinity. -/
def infinityThreshold : Nat := Nat.pow 2 1024 - Nat.pow 2 970

/--
`mantissa · 10 ^ exponent` is too large for binary64. The number of digits decides unless it comes
near the limit, so that no huge power is ever computed.
-/
def isTooLarge (mantissa : Nat) (exponent : Int) : Bool :=
  let digits : Int := (Nat.toDigits 10 mantissa).length
  if mantissa = 0 || digits + exponent < 300 then false
  else if 320 < digits + exponent then true
  else if 0 ≤ exponent then infinityThreshold ≤ mantissa * Nat.pow 10 exponent.toNat
  else infinityThreshold * Nat.pow 10 (-exponent).toNat ≤ mantissa

/-- What stands behind the whole part of a floating-point number: decimals, a power of ten, or
both. -/
def readFraction : List Char → Option ((List Char × Int) × List Char)
  | '.' :: rest => do
    let (decimals, rest) ← readDigits Char.isDigit rest
    match readExponent rest with
    | some (exponent, rest) => some ((decimals, exponent), rest)
    | none => some ((decimals, 0), rest)
  | cs => (readExponent cs).map fun (exponent, rest) => (([], exponent), rest)

/-- Passes over infinity or a number that is none. -/
def skipSpecial (cs : List Char) : Option (List Char) :=
  match (readSign cs).2 with
  | 'i' :: 'n' :: 'f' :: rest => some rest
  | 'n' :: 'a' :: 'n' :: rest => some rest
  | _ => none

/-- Passes over a floating-point number. -/
def skipFloat (cs : List Char) : Option (List Char) :=
  match readWhole cs with
  | some ((negative, whole), rest) => do
    let ((decimals, exponent), rest) ← readFraction rest
    let value := valueOf 10 (whole ++ decimals)
    if !negative && isTooLarge value (exponent - decimals.length) then none else some rest
  | none => skipSpecial cs

end TraceFlow.Toml
