import ChargingRegister.Url.Domain

/-!
# The authority of a URL

Behind two slashes stand a user, closed by an at sign, a host and, behind a colon, the number of a
service. Outside brackets the host ends at a colon. In brackets it is a long address. What else it
may be depends on the scheme: a domain name, or, where the scheme gives hosts no meaning, nearly any
text.
-/
namespace ChargingRegister.Url

def isForbiddenInHost (c : Char) : Bool :=
  "\x00\t\n\r #/:<>?@[\\]^|".toList.contains c

/-- The host up to a colon outside brackets, and the rest. -/
def cutHost (inBrackets : Bool) : List Char → List Char × List Char
  | [] => ([], [])
  | c :: cs =>
    if c = ':' && !inBrackets then ([], c :: cs)
    else
      let after := cutHost (if c = '[' then true else if c = ']' then false else inBrackets) cs
      (c :: after.1, after.2)

/-- A host that begins with a bracket ends with one and has a long address between them. -/
def isBracketed (cs : List Char) : Bool :=
  match cs.reverse with
  | ']' :: inner => isLongAddress (inner.reverse.drop 1)
  | _ => false

def isHost (isName : List Char → Bool) (cs : List Char) : Bool :=
  if cs.head? = some '[' then isBracketed cs else isName cs

def isOpaqueName (cs : List Char) : Bool :=
  !cs.any isForbiddenInHost

/-- Behind the host: nothing, or a colon and a number of 16 bits, which a backslash may end. -/
def isServicePart : List Char → Bool
  | ':' :: cs =>
    let digits := cs.takeWhile (· != '\\')
    digits.all Decimal.isDigit && Nat.ofDigitChars 10 digits 0 < 65536
  | _ => true

/-- The user, if there is an at sign, and what stands behind the last one. -/
def cutUser (cs : List Char) : Option (List Char) × List Char :=
  if cs.contains '@' then
    (some ((cs.reverse.dropWhile (· != '@')).drop 1).reverse,
      (cs.reverse.takeWhile (· != '@')).reverse)
  else (none, cs)

def isNobody (user : List Char) : Bool :=
  user = [] || user = [':']

/-- The authority behind two slashes where hosts have no meaning of their own; `isLast` says that
the URL ends with it. Without a host there is no service and nobody. -/
def isOpaqueAuthority (isLast : Bool) (cs : List Char) : Bool :=
  let (user, rest) := cutUser cs
  let (host, service) := cutHost false rest
  if host.isEmpty then
    service.isEmpty && match user with
      | none => true
      | some user => isNobody user && (!user.isEmpty || isLast)
  else isHost isOpaqueName host && isServicePart service

/-- The authority of a network scheme, which needs a host. -/
def isNetworkAuthority (cs : List Char) : Bool :=
  let (host, service) := cutHost false (cutUser cs).2
  !host.isEmpty && isHost isDomainName host && isServicePart service

def isFileHost (cs : List Char) : Bool :=
  let isDrive := match cs with
    | [c, mark] => c.isAlpha && (mark = ':' || mark = '|')
    | _ => false
  cs.isEmpty || isDrive || isHost isDomainName cs

end ChargingRegister.Url
