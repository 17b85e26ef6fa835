import ChargingRegister.Calendar.Instant
import ChargingRegister.Toml.Text
import ChargingRegister.Toml.Value

/-!
# Numbers and dates of a configuration document

Digits may be grouped by single underscores. A whole number fits a signed word of 64 bits. A
floating point number needs a fraction or an exponent and is refused when it is too large. Dates
and times are checked against the calendar.
-/
namespace ChargingRegister.Toml

/-- A digit and more digits, single underscores between them: the digits, and what follows. -/
def grouped? (isDigit : Char → Bool) : List Char → Option (List Char × List Char)
  | [] => none
  | c :: cs => if isDigit c then (more [c] cs) else none
where
  more (done : List Char) : List Char → Option (List Char × List Char)
    | [] => some (done.reverse, [])
    | '_' :: c :: cs => if isDigit c then more (c :: done) cs else none
    | ['_'] => none
    | c :: cs => if isDigit c then more (c :: done) cs else some (done.reverse, c :: cs)

def isDigit (c : Char) : Bool :=
  '0' ≤ c && c ≤ '9'

def isHexDigit (c : Char) : Bool :=
  (Json.hexValue? c).isSome

def isOctalDigit (c : Char) : Bool :=
  '0' ≤ c && c ≤ '7'

def isBinaryDigit (c : Char) : Bool :=
  c == '0' || c == '1'

def digitsValue (base : Nat) (ds : List Char) : Nat :=
  ds.foldl (fun n d => n * base + (Json.hexValue? d).getD 0) 0

def word? (n : Int) : Option Value :=
  if Decimal.FitsWord n then some (.integer n) else none

def decimal? : List Char → Option (List Char × List Char)
  | '0' :: cs => some (['0'], cs)
  | cs => grouped? isDigit cs

def sign : List Char → Bool × List Char
  | '-' :: cs => (true, cs)
  | '+' :: cs => (false, cs)
  | cs => (false, cs)

def based? (base : Nat) (isDigit : Char → Bool) (cs : List Char) : Option (Value × List Char) :=
  match grouped? isDigit cs with
  | some (ds, rest) => (word? (digitsValue base ds)).map fun v => (v, rest)
  | none => none

def integer? : List Char → Option (Value × List Char)
  | '0' :: 'x' :: cs => based? 16 isHexDigit cs
  | '0' :: 'o' :: cs => based? 8 isOctalDigit cs
  | '0' :: 'b' :: cs => based? 2 isBinaryDigit cs
  | cs =>
    let (negative, cs) := sign cs
    match decimal? cs with
    | some (ds, rest) =>
      let n : Int := digitsValue 10 ds
      (word? (if negative then -n else n)).map fun v => (v, rest)
    | none => none

/-- From here on a number rounds to infinity: half a unit in the last place above the largest
finite number. -/
def floatBound : Nat :=
  Nat.pow 2 1024 - Nat.pow 2 970

/-- Digits times a power of ten reach the bound. Only few exponents need an exact comparison. -/
def overflows (digits : List Char) (exponent : Int) : Bool :=
  let significant := digits.dropWhile (· == '0')
  let size : Int := significant.length + exponent
  if significant.isEmpty || size < 300 then false
  else if 320 < size then true
  else if 0 ≤ exponent then
    floatBound ≤ digitsValue 10 significant * Nat.pow 10 exponent.toNat
  else floatBound * Nat.pow 10 (-exponent).toNat ≤ digitsValue 10 significant

def fraction? : List Char → Option (List Char × List Char)
  | '.' :: cs => grouped? isDigit cs
  | cs => some ([], cs)

def exponent? : List Char → Option (Int × List Char)
  | [] => some (0, [])
  | c :: cs =>
    if c = 'e' ∨ c = 'E' then
      let (negative, cs) := sign cs
      match grouped? isDigit cs with
      | some (ds, rest) =>
        let n : Int := digitsValue 10 ds
        some (if negative then -n else n, rest)
      | none => none
    else some (0, c :: cs)

def startsFloat : List Char → Bool
  | c :: _ => c == '.' || c == 'e' || c == 'E'
  | [] => false

def float? (cs : List Char) : Option (Value × List Char) :=
  let (negative, cs) := sign cs
  match cs with
  | 'i' :: 'n' :: 'f' :: rest => some (.float, rest)
  | 'n' :: 'a' :: 'n' :: rest => some (.float, rest)
  | _ =>
    match decimal? cs with
    | none => none
    | some (whole, rest) =>
      if !startsFloat rest then none
      else match fraction? rest with
        | none => none
        | some (fraction, rest) =>
          match exponent? rest with
          | none => none
          | some (exponent, rest) =>
            if !negative && overflows (whole ++ fraction) (exponent - fraction.length) then none
            else some (.float, rest)

def fixed? (width : Nat) (cs : List Char) : Option (Nat × List Char) :=
  let ds := cs.take width
  if ds.length = width ∧ ds.all isDigit then some (digitsValue 10 ds, cs.drop width) else none

def marked? (mark : Char) (width : Nat) : List Char → Option (Nat × List Char)
  | c :: cs => if c = mark then fixed? width cs else none
  | [] => none

def date? (cs : List Char) : Option (List Char) := do
  let (year, cs) ← fixed? 4 cs
  let (month, cs) ← marked? '-' 2 cs
  let (day, cs) ← marked? '-' 2 cs
  let _ ← Date.of? year month day
  return cs

def time? (cs : List Char) : Option (List Char) := do
  let (hour, cs) ← fixed? 2 cs
  let (minute, cs) ← marked? ':' 2 cs
  let (second, cs) ← marked? ':' 2 cs
  let _ ← TimeOfDay.of? hour minute second 0
  match cs with
  | '.' :: cs =>
    let ds := cs.takeWhile isDigit
    if ds.isEmpty then none else return cs.drop ds.length
  | cs => return cs

/-- What follows an offset, or the same characters when there is none. -/
def afterOffset : List Char → List Char
  | 'Z' :: cs | 'z' :: cs => cs
  | c :: cs =>
    if c = '+' ∨ c = '-' then
      let offset : Option (List Char) := do
        let (hour, rest) ← fixed? 2 cs
        let (minute, rest) ← marked? ':' 2 rest
        if hour < 24 ∧ minute < 60 then return rest else none
      offset.getD (c :: cs)
    else c :: cs
  | [] => []

def afterTime : List Char → List Char
  | c :: cs =>
    if c = 'T' ∨ c = 't' ∨ c = ' ' then
      match time? cs with
      | some rest => afterOffset rest
      | none => c :: cs
    else c :: cs
  | [] => []

def datetime? (cs : List Char) : Option (Value × List Char) :=
  match date? cs with
  | some rest => some (.datetime, afterTime rest)
  | none => (time? cs).map fun rest => (.datetime, rest)

def number? (cs : List Char) : Option (Value × List Char) :=
  datetime? cs <|> float? cs <|> integer? cs

end ChargingRegister.Toml
