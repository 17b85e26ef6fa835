import ChargingRegister.Calendar.Instant
import ChargingRegister.Decimal
import ChargingRegister.Text.Parts

/-!
# Written time stamps

`Instant.written` is the exchange form: universal time, marked `Z`, with the fewest of 0, 3, 6 or
9 fraction digits that lose nothing. `Instant.shown` is the form in tables, to the second.
`Instant.ofText?` reads a date, a time and an offset from universal time, with blanks allowed
around the numbers.
-/
namespace ChargingRegister

open Decimal Text

namespace Instant

/-- Years of four digits are written as they are, all others with a sign. -/
def yearText (year : Int) : String :=
  if 0 ≤ year ∧ year ≤ 9999 then padded 4 year.toNat
  else (if year < 0 then "-" else "+") ++ padded 4 year.natAbs

def dateText (d : Date) : String :=
  yearText d.year ++ "-" ++ padded 2 d.month ++ "-" ++ padded 2 d.day

def clockText (t : TimeOfDay) : String :=
  padded 2 t.hour ++ ":" ++ padded 2 t.minute ++ ":" ++ padded 2 t.second

/-- The fraction of the second with its point, empty for a whole second. -/
def fractionText (n : Nat) : String :=
  if n = 0 then ""
  else if n % 1000000 = 0 then "." ++ padded 3 (n / 1000000)
  else if n % 1000 = 0 then "." ++ padded 6 (n / 1000)
  else "." ++ padded 9 n

def written (i : Instant) : String :=
  dateText i.date ++ "T" ++ clockText i.time ++ fractionText i.time.nanosecond ++ "Z"

def shown (i : Instant) : String :=
  dateText i.date ++ " " ++ clockText i.time

/-- A number of at least one and at most `limit` digits, and what follows it. -/
def number? (limit : Nat) (cs : List Char) : Option (Nat × List Char) :=
  let digits := (cs.take limit).takeWhile isDigit
  if digits.isEmpty then none
  else some (Nat.ofDigitChars 10 digits 0, cs.drop digits.length)

/-- A year: four digits, or any number of them behind a sign. -/
def year? (cs : List Char) : Option (Int × List Char) :=
  match trimStart cs with
  | '-' :: rest => (number? rest.length rest).map fun r => (-(r.1 : Int), r.2)
  | '+' :: rest => (number? rest.length rest).map fun r => ((r.1 : Int), r.2)
  | rest => (number? 4 rest).map fun r => ((r.1 : Int), r.2)

def field? (mark : Char) (cs : List Char) : Option (Nat × List Char) :=
  match trimStart cs with
  | c :: rest => if c = mark then number? 2 (trimStart rest) else none
  | [] => none

/-- The nanoseconds of an optional fraction; digits beyond the ninth are dropped. -/
def fraction? : List Char → Option (Nat × List Char)
  | '.' :: cs =>
    let digits := cs.takeWhile isDigit
    let kept := digits.take 9
    if kept.isEmpty then none
    else some (Nat.ofDigitChars 10 kept 0 * Nat.pow 10 (9 - kept.length), cs.drop digits.length)
  | cs => some (0, cs)

def digitPair? : List Char → Option (Nat × List Char)
  | a :: b :: rest =>
    if isDigit a && isDigit b then some (Nat.ofDigitChars 10 [a, b] 0, rest) else none
  | _ => none

def offsetMinutes? (cs : List Char) : Option (Nat × List Char) := do
  let (hours, cs) ← digitPair? cs
  let (minutes, cs) ← digitPair? (cs.dropWhile fun c => c == ':' || isBlank c)
  if hours < 24 ∧ minutes < 60 then some (hours * 60 + minutes, cs) else none

/-- The offset from universal time, in minutes: `Z`, `UTC`, or a sign, hours and minutes. -/
def offset? : List Char → Option (Int × List Char)
  | 'Z' :: cs | 'z' :: cs => some (0, cs)
  | '+' :: cs => (offsetMinutes? cs).map fun r => ((r.1 : Int), r.2)
  | '-' :: cs | '−' :: cs => (offsetMinutes? cs).map fun r => (-(r.1 : Int), r.2)
  | a :: b :: c :: cs =>
    if [a, b, c].map Char.toUpper = ['U', 'T', 'C'] then some (0, cs) else none
  | _ => none

def inReach (i : Instant) : Bool :=
  earliestYear ≤ i.date.year && i.date.year ≤ latestYear

def ofChars? (cs : List Char) : Option Instant := do
  let (year, cs) ← year? cs
  let (month, cs) ← field? '-' cs
  let (day, cs) ← field? '-' cs
  let cs ← match cs with
    | 'T' :: cs | 't' :: cs | ' ' :: cs => some cs
    | _ => none
  let (hour, cs) ← number? 2 (trimStart cs)
  let (minute, cs) ← field? ':' cs
  let (second, cs) ← field? ':' cs
  let (nanosecond, cs) ← fraction? cs
  let (offset, cs) ← offset? (trimStart cs)
  let date ← Date.of? year month day
  let time ← TimeOfDay.of? hour minute second nanosecond
  let instant := ofLocal date time offset
  if cs.all isBlank && (earliestYear ≤ year && year ≤ latestYear) && instant.inReach
  then some instant else none

def ofText? (text : String) : Option Instant :=
  ofChars? text.toList

end Instant

end ChargingRegister
