namespace DocQuery.Calendar

structure Date where
  year : Int
  month : Nat
  day : Nat
  deriving DecidableEq

def isLeap (y : Int) : Bool := (y % 4 == 0 && y % 100 != 0) || y % 400 == 0

def monthLength (leap : Bool) : Nat → Nat
  | 2 => if leap then 29 else 28
  | 4 | 6 | 9 | 11 => 30
  | _ => 31

def daysBeforeMonth (leap : Bool) : Nat → Nat
  | 0 | 1 => 0
  | m + 1 => daysBeforeMonth leap m + monthLength leap m

def daysBeforeYear (y : Int) : Int := 365 * (y - 1) + (y - 1) / 4 - (y - 1) / 100 + (y - 1) / 400 - 719162

def yearInRange (y : Int) : Bool := -262143 ≤ y && y ≤ 262142

namespace Date

def isValid (d : Date) : Bool :=
  yearInRange d.year && 1 ≤ d.month && d.month ≤ 12 && 1 ≤ d.day &&
    d.day ≤ monthLength (isLeap d.year) d.month

def toDays (d : Date) : Int :=
  daysBeforeYear d.year + (daysBeforeMonth (isLeap d.year) d.month : Int) + (d.day : Int) - 1

end Date

def yearOf (z : Int) : Int :=
  let y := 400 * (z + 719162) / 146097 + 1
  if daysBeforeYear (y + 1) ≤ z then y + 1
  else if daysBeforeYear y ≤ z then y
  else y - 1

def monthOf (leap : Bool) (n : Nat) : Nat → Nat → Nat
  | 0, m => m
  | fuel + 1, m => if n < daysBeforeMonth leap (m + 1) then m else monthOf leap n fuel (m + 1)

def Date.ofDays (z : Int) : Date :=
  let y := yearOf z
  let n := (z - daysBeforeYear y).toNat
  let m := monthOf (isLeap y) n 11 1
  ⟨y, m, n - daysBeforeMonth (isLeap y) m + 1⟩

theorem daysBeforeYear_yearOf_le (z : Int) : daysBeforeYear (yearOf z) ≤ z := by
  simp only [yearOf]
  split
  · assumption
  · split
    · assumption
    · simp only [daysBeforeYear] at *
      omega

theorem lt_daysBeforeYear_yearOf (z : Int) : z < daysBeforeYear (yearOf z + 1) := by
  simp only [yearOf]
  split
  · simp only [daysBeforeYear] at *
    omega
  · split
    · rename_i h _
      simpa using h
    · rename_i _ h
      simpa using h

end DocQuery.Calendar
