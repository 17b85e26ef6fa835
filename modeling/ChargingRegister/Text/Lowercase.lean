import ChargingRegister.Text.Lowercase.Table

/-!
# Lowercase forms of whole texts

Each character has a lowercase form of its own, except the capital sigma, whose form depends on
its neighbours: at the end of a word it is `ς`, elsewhere `σ`. `lowered` states the rule over the
characters already read, nearest first; `lowercase` computes it from left to right.
-/
namespace ChargingRegister.Text

def CaseRun.covers (r : CaseRun) (n : Nat) : Bool :=
  r.first ≤ n && n ≤ r.last && (n - r.first) % r.step == 0

def inRanges (ranges : List (Nat × Nat)) (n : Nat) : Bool :=
  ranges.any fun r => r.1 ≤ n && n ≤ r.2

def isCased (c : Char) : Bool :=
  inRanges casedRanges c.toNat

def isCaseIgnorable (c : Char) : Bool :=
  inRanges ignorableRanges c.toNat

/-- The form of a character that does not look at its neighbours. -/
def lowerChar (c : Char) : List Char :=
  if c.toNat < 0x80 then [c.toLower]
  else if c = 'İ' then ['i', '\u0307']
  else match lowercaseRuns.find? (·.covers c.toNat) with
    | some r => [Char.ofNat (r.image + (c.toNat - r.first))]
    | none => [c]

/-- The nearest character that counts is a letter with case. -/
def touchesCased (cs : List Char) : Bool :=
  match cs.dropWhile isCaseIgnorable with
  | c :: _ => isCased c
  | [] => false

def lowerBetween (before : List Char) (c : Char) (after : List Char) : List Char :=
  if c = 'Σ' then
    if touchesCased before && !touchesCased after then ['ς'] else ['σ']
  else lowerChar c

def lowered (before : List Char) : List Char → List Char
  | [] => []
  | c :: after => lowerBetween before c after ++ lowered (c :: before) after

/-- Collects the lowered text backwards, for texts of any length. -/
def lowerLoop (before done : List Char) : List Char → List Char
  | [] => done.reverse
  | c :: after =>
    lowerLoop (c :: before) ((lowerBetween before c after).reverse ++ done) after

def lowercase (s : String) : String :=
  String.ofList (lowerLoop [] [] s.toList)

theorem lowerLoop_eq (before done cs : List Char) :
    lowerLoop before done cs = done.reverse ++ lowered before cs := by
  induction cs generalizing before done with
  | nil => simp [lowerLoop, lowered]
  | cons c cs ih => simp [lowerLoop, lowered, ih]

@[simp] theorem toList_lowercase (s : String) : (lowercase s).toList = lowered [] s.toList := by
  simp [lowercase, lowerLoop_eq]

end ChargingRegister.Text
