/-!
# Whole numbers in decimal

Numbers are written without leading zeros. Reading takes nothing but digits, and the sign only
where the reader says so.
-/
namespace ChargingRegister.Decimal

def isDigit (c : Char) : Bool :=
  '0' ≤ c && c ≤ '9'

def natOf? (cs : List Char) : Option Nat :=
  if cs.isEmpty || !cs.all isDigit then none else some (Nat.ofDigitChars 10 cs 0)

def ofNat (n : Nat) : String :=
  Nat.repr n

def ofInt (n : Int) : String :=
  Int.repr n

def padded (width n : Nat) : String :=
  let digits := ofNat n
  String.ofList (List.replicate (width - digits.length) '0') ++ digits

/-- The numbers that a signed word of 64 bits holds. -/
def FitsWord (n : Int) : Prop :=
  -0x8000000000000000 ≤ n ∧ n < 0x8000000000000000

instance (n : Int) : Decidable (FitsWord n) :=
  inferInstanceAs (Decidable (_ ∧ _))

/-- A decimal with an optional sign in front, when it fits a signed word of 64 bits. -/
def signedWord? (cs : List Char) : Option Int :=
  let value : Option Int := match cs with
    | '-' :: digits => (natOf? digits).map fun n => -(n : Int)
    | '+' :: digits => (natOf? digits).map fun n => (n : Int)
    | digits => (natOf? digits).map fun n => (n : Int)
  value.filter fun n => decide (FitsWord n)

theorem natOf?_toDigits (n : Nat) : natOf? (Nat.toDigits 10 n) = some n := by
  have hall : (Nat.toDigits 10 n).all isDigit = true := by
    rw [List.all_eq_true]
    intro c hc
    have h := Nat.isDigit_of_mem_toDigits (by decide) (by decide) hc
    simpa [isDigit, Char.isDigit, Char.le_def] using h
  have hne : (Nat.toDigits 10 n).isEmpty = false := by
    cases h : Nat.toDigits 10 n with
    | nil => exact absurd h (by simp)
    | cons => rfl
  simp [natOf?, hall, hne, Nat.ofDigitChars_toDigits]

end ChargingRegister.Decimal
