import TraceFlow.Toml.Text

/-!
# Dates and times in TOML

A date, a time of day, or a date with a time of day and perhaps its distance from universal time.
-/

namespace TraceFlow.Toml

/-- A number of exactly so many digits. -/
def readFixed (count : Nat) (cs : List Char) : Option (Nat × List Char) :=
  let digits := cs.take count
  if digits.length = count ∧ digits.all Char.isDigit then
    some (digits.foldl (fun n c => n * 10 + (c.toNat - '0'.toNat)) 0, cs.drop count)
  else none

/-- A number of two digits within bounds, both included. -/
def readPart (low high : Nat) (cs : List Char) : Option (Nat × List Char) := do
  let (n, rest) ← readFixed 2 cs
  if low ≤ n ∧ n ≤ high then some (n, rest) else none

def isLeapYear (year : Nat) : Bool := year % 4 = 0 && (year % 100 ≠ 0 || year % 400 = 0)

def daysIn (year month : Nat) : Nat :=
  if month = 2 then if isLeapYear year then 29 else 28
  else if month ∈ [4, 6, 9, 11] then 30
  else 31

/-- Passes over one given character. -/
def skipChar (c : Char) : List Char → Option (List Char)
  | d :: rest => if d = c then some rest else none
  | [] => none

/-- Passes over a date that the calendar has. -/
def skipDate (cs : List Char) : Option (List Char) := do
  let (year, rest) ← readFixed 4 cs
  let (month, rest) ← readPart 1 12 (← skipChar '-' rest)
  let (_, rest) ← readPart 1 (daysIn year month) (← skipChar '-' rest)
  return rest

/-- Passes over a fraction of a second, if there is one. -/
def skipSecondFraction : List Char → List Char
  | '.' :: c :: rest => if c.isDigit then rest.dropWhile Char.isDigit else '.' :: c :: rest
  | cs => cs

/-- Passes over a time of day; any minute may have a leap second. -/
def skipTime (cs : List Char) : Option (List Char) := do
  let (_, rest) ← readPart 0 23 cs
  let (_, rest) ← readPart 0 59 (← skipChar ':' rest)
  let (_, rest) ← readPart 0 60 (← skipChar ':' rest)
  return skipSecondFraction rest

/-- Passes over the distance from universal time. -/
def skipOffset : List Char → Option (List Char)
  | c :: rest =>
    if c = 'Z' || c = 'z' then some rest
    else if c = '+' || c = '-' then do
      let (_, rest) ← readPart 0 23 rest
      let (_, rest) ← readPart 0 59 (← skipChar ':' rest)
      return rest
    else none
  | [] => none

/-- Passes over what may follow a date: a time of day, perhaps with its distance. -/
def skipTimeOfDate : List Char → Option (List Char)
  | c :: rest =>
    if c = 'T' || c = 't' || c = ' ' then do
      let rest ← skipTime rest
      return (skipOffset rest).getD rest
    else none
  | [] => none

/-- Passes over a date, a time or both. -/
def skipMoment (cs : List Char) : Option (List Char) :=
  match skipDate cs with
  | some rest => some ((skipTimeOfDate rest).getD rest)
  | none => skipTime cs

end TraceFlow.Toml
