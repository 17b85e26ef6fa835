import ChargingRegister.Text.Direction
import ChargingRegister.Text.Joining
import ChargingRegister.Url.Domain.Table
import ChargingRegister.Url.Encoding
import ChargingRegister.Url.Network
import ChargingRegister.Url.Punycode

/-!
# Domain names

The hosts of the network schemes and of files. Percent signs are decoded first, then each
character takes the form that domain names write: small letters, plain points, nothing for
characters that show nothing. A label that begins with `xn--` stands for another text. A label does
not begin with a mark and is not too long, its joiners make sense, and in a name with anything that
runs to the left each label keeps its direction. A name whose last label is a number is an address.
-/
namespace ChargingRegister.Url

/-- The place of a character in a run, and the first of the run's images. -/
def findRun? (runs : List (Nat × Nat × Nat)) (c : Char) : Option (Nat × Nat) :=
  (runs.find? fun r => r.1 ≤ c.toNat && c.toNat ≤ r.2.1).map fun r => (c.toNat - r.1, r.2.2)

/-- What a domain name writes for a character. -/
def domainChar (c : Char) : List Char :=
  if Text.inRanges silentRanges c.toNat then []
  else if c = '。' ∨ c = '｡' then ['.']
  else if '！' ≤ c ∧ c ≤ '～' then Text.lowerChar (Char.ofNat (c.toNat - 0xFEE0))
  else match findRun? formRuns c, findRun? numberRuns c with
    | some (place, image), _ => [Char.ofNat (image + place)]
    | none, some (place, number) => (Decimal.ofNat (number + place)).toList
    | none, none => Text.lowerChar c

/-- ASCII that no domain name contains. -/
def isForbiddenInDomain (c : Char) : Bool :=
  c.toNat ≤ 0x20 || c.toNat = 0x7F || "%#/:<>?@[\\]^|".toList.contains c

/-- The character may stand in a domain name, in one form or another. -/
def isFit (c : Char) : Bool :=
  if c.toNat < 0x80 then !isForbiddenInDomain c
  else Text.isJoiner c || (Text.isPrintable c && !Text.inRanges unfitRanges c.toNat)

/-- The character stands in a domain name as it is. -/
def isSettled (c : Char) : Bool :=
  isFit c && domainChar c = [c] && !Text.inRanges formedRanges c.toNat

/-- The most characters behind `xn--`. -/
def maxWritten : Nat := 2000

/-- The most characters of a label that is not all ASCII. -/
def maxText : Nat := 1000

/-- What a label behind `xn--` stands for: a text beyond ASCII that is already in its form. -/
def settledText? (cs : List Char) : Option (List Char) :=
  if cs.getLast? = some '-' || maxWritten < cs.length then none
  else (Punycode.decode? cs).filter fun text =>
    text.any (0x80 ≤ ·.toNat) && text.all isSettled && Text.isComposed text

def labelText? : List Char → Option (List Char)
  | 'x' :: 'n' :: '-' :: '-' :: rest => settledText? rest
  | cs => some cs

def isLabelText (cs : List Char) : Bool :=
  !cs.head?.any Text.isMark && Text.joinersMakeSense cs &&
    (cs.length ≤ maxText || cs.all (·.toNat < 0x80))

def isDomainName (cs : List Char) : Bool :=
  match Utf8.decode? (percentDecoded cs) with
  | .error _ => false
  | .ok cs =>
    let name := cs.flatMap domainChar
    let labels := (Text.split '.' name).mapM labelText?
    !name.isEmpty && name.all isFit && (!endsInNumber name || isShortAddress name) &&
      labels.any fun labels => labels.all isLabelText &&
        (!labels.any Text.hasLeftward || labels.all Text.keepsDirection)

end ChargingRegister.Url
