import ChargingRegister.Url.Host

/-!
# The scheme of a URL

A text is a URL when it begins with a scheme and a colon, and when its authority is in order, if
it has one. What comes after the authority is never at fault.
-/
namespace ChargingRegister.Url

/-- A URL without control characters and blanks at its ends, and without any tab or line break. -/
def cleaned (cs : List Char) : List Char :=
  let isEdge (c : Char) : Bool := c.toNat ≤ 0x20
  let inner := ((cs.dropWhile isEdge).reverse.dropWhile isEdge).reverse
  inner.filter fun c => c != '\t' && c != '\n' && c != '\r'

def isSchemeChar (c : Char) : Bool :=
  c.isAlphanum || c == '+' || c == '-' || c == '.'

def cutScheme? (cs : List Char) : Option (String × List Char) :=
  match cs with
  | c :: _ =>
    if c.isAlpha then
      match cs.dropWhile isSchemeChar with
      | ':' :: rest => some (String.ofList ((cs.takeWhile isSchemeChar).map Char.toLower), rest)
      | _ => none
    else none
  | [] => none

def endsAuthority (c : Char) : Bool :=
  c == '/' || c == '?' || c == '#'

/-- A backslash counts as a slash in the schemes of networks and files. -/
def isSlash (c : Char) : Bool :=
  c == '/' || c == '\\'

/-- The schemes of networks, whose host may not be left out. -/
def networkSchemes : List String :=
  ["http", "https", "ws", "wss", "ftp"]

def isRest (scheme : String) (rest : List Char) : Bool :=
  if networkSchemes.contains scheme then
    isNetworkAuthority ((rest.dropWhile isSlash).takeWhile fun c => !(endsAuthority c || isSlash c))
  else if scheme == "file" then
    match rest with
    | a :: b :: rest =>
      if isSlash a && isSlash b then
        isFileHost (rest.takeWhile fun c => !(endsAuthority c || isSlash c))
      else true
    | _ => true
  else match rest with
    | '/' :: '/' :: rest =>
      isOpaqueAuthority (rest.dropWhile (!endsAuthority ·)).isEmpty (rest.takeWhile (!endsAuthority ·))
    | _ => true

def scheme? (url : String) : Option String :=
  match cutScheme? (cleaned url.toList) with
  | some (scheme, rest) => if isRest scheme rest then some scheme else none
  | none => none

end ChargingRegister.Url
