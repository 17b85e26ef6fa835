/-!
# Dates and instants

Dates of the proleptic Gregorian calendar, the time within a day to the nanosecond, and instants
as the two together in universal time. Second 60 stands for a leap second. Moving an instant by
an offset of less than a day changes the date by one day at most.
-/
namespace ChargingRegister

def isLeapYear (year : Int) : Bool :=
  year % 4 == 0 && (year % 100 != 0 || year % 400 == 0)

def daysInMonth (year : Int) (month : Nat) : Nat :=
  if month = 2 then (if isLeapYear year then 29 else 28)
  else if month = 4 ∨ month = 6 ∨ month = 9 ∨ month = 11 then 30
  else 31

theorem daysInMonth_pos (year : Int) (month : Nat) : 1 ≤ daysInMonth year month := by
  unfold daysInMonth
  split
  · split <;> decide
  · split <;> decide

structure Date where
  year : Int
  month : Nat
  day : Nat
  month_ok : 1 ≤ month ∧ month ≤ 12
  day_ok : 1 ≤ day ∧ day ≤ daysInMonth year month
  deriving DecidableEq

namespace Date

def of? (year : Int) (month day : Nat) : Option Date :=
  if h : (1 ≤ month ∧ month ≤ 12) ∧ 1 ≤ day ∧ day ≤ daysInMonth year month then
    some ⟨year, month, day, h.1, h.2⟩
  else none

@[simp] theorem of?_self (d : Date) : of? d.year d.month d.day = some d := by
  simp [of?, d.month_ok, d.day_ok]

def next (d : Date) : Date :=
  if h : d.day < daysInMonth d.year d.month then
    { d with day := d.day + 1, day_ok := ⟨Nat.succ_pos _, h⟩ }
  else if hm : d.month < 12 then
    { year := d.year, month := d.month + 1, day := 1, month_ok := ⟨Nat.succ_pos _, hm⟩
      day_ok := ⟨Nat.le_refl _, daysInMonth_pos _ _⟩ }
  else
    { year := d.year + 1, month := 1, day := 1, month_ok := by decide
      day_ok := ⟨Nat.le_refl _, daysInMonth_pos _ _⟩ }

def previous (d : Date) : Date :=
  if h : 1 < d.day then
    { d with
      day := d.day - 1
      day_ok := ⟨by omega, Nat.le_trans (Nat.sub_le _ _) d.day_ok.2⟩ }
  else if hm : 1 < d.month then
    { year := d.year, month := d.month - 1, day := daysInMonth d.year (d.month - 1)
      month_ok := ⟨by omega, by have := d.month_ok.2; omega⟩
      day_ok := ⟨daysInMonth_pos _ _, Nat.le_refl _⟩ }
  else
    { year := d.year - 1, month := 12, day := 31, month_ok := by decide
      day_ok := ⟨by decide, Nat.le_refl 31⟩ }

end Date

structure TimeOfDay where
  hour : Nat
  minute : Nat
  second : Nat
  nanosecond : Nat
  hour_lt : hour < 24
  minute_lt : minute < 60
  second_le : second ≤ 60
  nanosecond_lt : nanosecond < 1000000000
  deriving DecidableEq

namespace TimeOfDay

def of? (hour minute second nanosecond : Nat) : Option TimeOfDay :=
  if h : hour < 24 ∧ minute < 60 ∧ second ≤ 60 ∧ nanosecond < 1000000000 then
    some ⟨hour, minute, second, nanosecond, h.1, h.2.1, h.2.2.1, h.2.2.2⟩
  else none

@[simp] theorem of?_self (t : TimeOfDay) :
    of? t.hour t.minute t.second t.nanosecond = some t := by
  simp [of?, t.hour_lt, t.minute_lt, t.second_le, t.nanosecond_lt]

def atMinute (t : TimeOfDay) (minutes : Nat) : TimeOfDay :=
  { t with
    hour := minutes / 60 % 24
    minute := minutes % 60
    hour_lt := Nat.mod_lt _ (by decide)
    minute_lt := Nat.mod_lt _ (by decide) }

end TimeOfDay

structure Instant where
  date : Date
  time : TimeOfDay
  deriving DecidableEq

namespace Instant

/-- The years an instant may lie in when it is read. -/
def earliestYear : Int := -262143

def latestYear : Int := 262142

/-- The instant at which clocks that are `offset` minutes ahead of universal time, by less than
a day, show the given date and time. -/
def ofLocal (date : Date) (time : TimeOfDay) (offset : Int) : Instant :=
  let minutes : Int := (time.hour * 60 + time.minute : Nat) - offset
  if minutes < 0 then ⟨date.previous, time.atMinute (minutes + 1440).toNat⟩
  else if minutes < 1440 then ⟨date, time.atMinute minutes.toNat⟩
  else ⟨date.next, time.atMinute (minutes - 1440).toNat⟩

/-- The day from whose start machines count seconds. -/
def epoch : Date :=
  ⟨1970, 1, 1, by decide, by decide⟩

/-- The instant some seconds and nanoseconds after the epoch. -/
def ofEpoch (seconds : Nat) (nanosecond : Fin 1000000000) : Instant where
  date := (seconds / 86400).repeat Date.next epoch
  time := {
    hour := seconds / 3600 % 24
    minute := seconds / 60 % 60
    second := seconds % 60
    nanosecond := nanosecond
    hour_lt := Nat.mod_lt _ (by decide)
    minute_lt := Nat.mod_lt _ (by decide)
    second_le := Nat.le_of_lt (Nat.mod_lt _ (by decide))
    nanosecond_lt := nanosecond.isLt }

theorem ofLocal_zero (i : Instant) : ofLocal i.date i.time 0 = i := by
  obtain ⟨d, t⟩ := i
  have h1 := t.hour_lt
  have h2 := t.minute_lt
  have e1 : (t.hour * 60 + t.minute) / 60 % 24 = t.hour := by omega
  have e2 : (t.hour * 60 + t.minute) % 60 = t.minute := by omega
  have e3 : ¬((t.hour * 60 + t.minute : Nat) - (0 : Int) < 0) := by omega
  have e4 : (t.hour * 60 + t.minute : Nat) - (0 : Int) < 1440 := by omega
  have e5 : ((t.hour * 60 + t.minute : Nat) - (0 : Int)).toNat = t.hour * 60 + t.minute := by
    omega
  simp only [ofLocal, e3, e4, e5, if_true, if_false]
  simp only [TimeOfDay.atMinute, e1, e2]

end Instant

end ChargingRegister
