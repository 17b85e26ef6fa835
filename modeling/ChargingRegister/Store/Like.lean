/-!
# Wildcard patterns over texts

In a pattern `%` stands for any run of characters, `_` for any one, and a backslash takes the
character after it literally. Letters of ASCII are compared without regard to case, and the two
code points at the end of the basic plane, which are no characters, count as replacement
characters. Both the pattern and the text end before their first null character. `containing` is
the pattern that a searched text becomes: itself taken literally, anywhere in the other text.
-/
namespace ChargingRegister.Like

inductive Token where
  | anyRun
  | anyOne
  | char (c : Char)
  deriving DecidableEq, Repr

def isSpecial (c : Char) : Bool :=
  c == '%' || c == '_' || c == '\\'

/-- A text with a backslash before each character that a pattern would not take literally. -/
def escaped (cs : List Char) : List Char :=
  cs.flatMap fun c => if isSpecial c then ['\\', c] else [c]

def containing (cs : List Char) : List Char :=
  '%' :: escaped cs ++ ['%']

def tokens : List Char → List Token
  | [] => []
  | '%' :: cs => .anyRun :: tokens cs
  | '_' :: cs => .anyOne :: tokens cs
  | '\\' :: c :: cs => .char c :: tokens cs
  | c :: cs => .char c :: tokens cs

/-- What a comparison looks at. -/
def folded (c : Char) : Char :=
  if c = '\uFFFE' ∨ c = '\uFFFF' then '\uFFFD' else c.toLower

def sameChar (a b : Char) : Bool :=
  folded a == folded b

def matchTokens : List Token → List Char → Bool
  | [], cs => cs.isEmpty
  | .anyRun :: ts, [] => matchTokens ts []
  | .anyRun :: ts, c :: cs => matchTokens ts (c :: cs) || matchTokens (.anyRun :: ts) cs
  | .anyOne :: _, [] => false
  | .anyOne :: ts, _ :: cs => matchTokens ts cs
  | .char _ :: _, [] => false
  | .char a :: ts, c :: cs => sameChar a c && matchTokens ts cs
termination_by ts cs => ts.length + cs.length

def untilNull (cs : List Char) : List Char :=
  cs.takeWhile (· != '\x00')

def matches? (pattern text : List Char) : Bool :=
  matchTokens (tokens (untilNull pattern)) (untilNull text)

/-- Longer patterns, in bytes, are not compared at all. -/
def maxPatternBytes : Nat := 50000

end ChargingRegister.Like
