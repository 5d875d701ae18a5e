namespace DocumentClient

structure Date where
  year : Int
  month : Nat
  day : Nat
  deriving DecidableEq, Repr

namespace Date

def isLeap (year : Int) : Bool := year % 4 = 0 && (year % 100 ≠ 0 || year % 400 = 0)

def monthLengths (leap : Bool) : List Nat :=
  [31, if leap then 29 else 28, 31, 30, 31, 30, 31, 31, 30, 31, 30, 31]

def Valid (d : Date) : Prop :=
  1 ≤ d.month ∧ 1 ≤ d.day ∧
    d.day ≤ ((monthLengths (isLeap d.year))[d.month - 1]?).getD 0

instance (d : Date) : Decidable d.Valid := by unfold Valid; infer_instance

def daysBeforeYear (year : Int) : Int :=
  let y := year - 1
  365 * y + y / 4 - y / 100 + y / 400

def epochDays : Int := 719162

def daysBeforeMonth (leap : Bool) (month : Nat) : Nat :=
  ((monthLengths leap).take (month - 1)).foldr (· + ·) 0

def dayNumber (d : Date) : Int :=
  daysBeforeYear d.year + daysBeforeMonth (isLeap d.year) d.month + d.day - 1 - epochDays

def walkMonths (month : Nat) : List Nat → Nat → Nat × Nat
  | [], n => (month, n + 1)
  | l :: ls, n => if n < l then (month, n + 1) else walkMonths (month + 1) ls (n - l)

def yearOf (n : Int) : Int :=
  let y := n * 400 / 146097 + 1
  if n < daysBeforeYear y then y - 1
  else if daysBeforeYear (y + 1) ≤ n then y + 1
  else y

def ofDayNumber (n : Int) : Date :=
  let n := n + epochDays
  let year := yearOf n
  let (month, day) := walkMonths 1 (monthLengths (isLeap year)) (n - daysBeforeYear year).toNat
  { year, month, day }

end Date

end DocumentClient
