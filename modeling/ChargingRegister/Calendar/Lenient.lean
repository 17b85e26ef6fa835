import ChargingRegister.Calendar.Timestamp

/-!
# Time stamps of other writers

A table may hold time stamps in forms that the register itself does not write. A strict time
stamp has two digits in each field and an offset of less than a day. A loose one may lack the
seconds and the offset, has its date and time joined by `T` or by blanks, and allows blanks before
each number; without an offset, or with one of a day or more, it is taken as universal time.
-/
namespace ChargingRegister.Instant

open Text

/-- Two digits behind the mark that separates them from the number before. -/
def strictField? (mark : Char) (cs : List Char) : Option (Nat × List Char) :=
  match cs with
  | c :: rest => if c = mark then digitPair? rest else none
  | [] => none

def fourDigits? (cs : List Char) : Option (Nat × List Char) :=
  (number? 4 cs).filter fun r => r.2.length + 4 = cs.length

def strictOffset? (cs : List Char) : Option Nat := do
  let (hours, cs) ← digitPair? cs
  let (minutes, cs) ← strictField? ':' cs
  if hours < 24 ∧ minutes < 60 ∧ cs = [] then some (hours * 60 + minutes) else none

/-- The instant at which clocks with an offset show a date and a time of the reach. -/
def atOffset? (year : Int) (month day hour minute second nanosecond : Nat) (offset : Int) :
    Option Instant := do
  let date ← Date.of? year month day
  let time ← TimeOfDay.of? hour minute second nanosecond
  let instant := ofLocal date time offset
  if (earliestYear ≤ year && year ≤ latestYear) && instant.inReach then some instant else none

def ofStrict? (cs : List Char) : Option Instant := do
  let (year, cs) ← fourDigits? cs
  let (month, cs) ← strictField? '-' cs
  let (day, cs) ← strictField? '-' cs
  let (hour, cs) ← match cs with
    | 'T' :: cs | 't' :: cs | ' ' :: cs => digitPair? cs
    | _ => none
  let (minute, cs) ← strictField? ':' cs
  let (second, cs) ← strictField? ':' cs
  let (nanosecond, cs) ← fraction? cs
  let offset : Int ← match cs with
    | ['Z'] | ['z'] => some 0
    | '+' :: cs => (strictOffset? cs).map fun n => (n : Int)
    | '-' :: cs | '−' :: cs => (strictOffset? cs).map fun n => -(n : Int)
    | _ => none
  atOffset? year month day hour minute second nanosecond offset

/-- One or two digits behind a mark, with blanks between. -/
def looseField? (mark : Char) (cs : List Char) : Option (Nat × List Char) :=
  match cs with
  | c :: rest => if c = mark then number? 2 (trimStart rest) else none
  | [] => none

def looseOffset? (cs : List Char) : Option Nat := do
  let (hours, cs) ← digitPair? cs
  let (minutes, cs) ← digitPair? (cs.dropWhile fun c => c == ':' || isBlank c)
  if minutes < 60 ∧ cs = [] then some (hours * 60 + minutes) else none

/-- What follows the time: nothing or `Z` for universal time, or an offset. -/
def looseEnd? (cs : List Char) : Option Int :=
  match cs with
  | [] | ['Z'] => some 0
  | cs =>
    match trimStart cs with
    | '+' :: cs => (looseOffset? cs).map fun n => (n : Int)
    | '-' :: cs | '−' :: cs => (looseOffset? cs).map fun n => -(n : Int)
    | _ => none

def ofLoose? (cs : List Char) : Option Instant := do
  let (year, cs) ← year? cs
  let (month, cs) ← looseField? '-' cs
  let (day, cs) ← looseField? '-' cs
  let (hour, cs) ← number? 2 (trimStart (if cs.head? = some 'T' then cs.drop 1 else cs))
  let (minute, cs) ← looseField? ':' cs
  let (second, nanosecond, cs) ←
    if cs.head? = some ':' then do
      let (second, cs) ← looseField? ':' cs
      let (nanosecond, cs) ← fraction? cs
      some (second, nanosecond, cs)
    else some (0, 0, cs)
  let offset ← looseEnd? cs
  let shown := if offset.natAbs < 1440 then
      atOffset? year month day hour minute second nanosecond offset
    else none
  shown <|> atOffset? year month day hour minute second nanosecond 0

/-- Reads a time stamp of a table. -/
def ofStored? (text : String) : Option Instant :=
  ofStrict? text.toList <|> ofLoose? text.toList

end ChargingRegister.Instant
