import DocumentClient.Calendar
import DocumentClient.Text.Digits

/-!
Points in time, to the nanosecond, and their text.  A leap second is the second before it with more
than a full second of nanoseconds.
-/

namespace DocumentClient

open Text

/-- Seconds since the first moment of 1970, and nanoseconds beyond them. -/
structure Instant where
  seconds : Int
  nanos : Nat
  deriving DecidableEq, Repr

structure ClockReading where
  date : Date
  hour : Nat
  minute : Nat
  second : Nat
  nanos : Nat
  deriving DecidableEq, Repr

namespace ClockReading

def Valid (r : ClockReading) : Prop :=
  r.date.Valid ∧ r.hour < 24 ∧ r.minute < 60 ∧ r.second ≤ 60 ∧ r.nanos < 1000000000

instance (r : ClockReading) : Decidable r.Valid := by unfold Valid; infer_instance

/-- The instant at which a clock that is `offset` seconds ahead shows the reading. -/
def toInstant (r : ClockReading) (offset : Int) : Instant :=
  let (second, nanos) := if r.second = 60 then (59, r.nanos + 1000000000) else (r.second, r.nanos)
  let clock : Nat := r.hour * 3600 + r.minute * 60 + second
  ⟨r.date.dayNumber * 86400 + clock - offset, nanos⟩

end ClockReading

namespace Instant

def firstYear : Int := -262143

def lastYear : Int := 262142

def firstSecond : Int := (⟨firstYear, 1, 1⟩ : Date).dayNumber * 86400

def lastSecond : Int := (⟨lastYear, 12, 31⟩ : Date).dayNumber * 86400 + 86399

def ofEpochSeconds? (seconds : Int) : Option Instant :=
  if firstSecond ≤ seconds ∧ seconds ≤ lastSecond then some ⟨seconds, 0⟩ else none

def reading (t : Instant) : ClockReading :=
  let clock := (t.seconds % 86400).toNat
  let leap := 1000000000 ≤ t.nanos
  { date := .ofDayNumber (t.seconds / 86400)
    hour := clock / 3600
    minute := clock / 60 % 60
    second := clock % 60 + if leap then 1 else 0
    nanos := if leap then t.nanos - 1000000000 else t.nanos }

def yearText (year : Int) : List Char :=
  if 0 ≤ year ∧ year ≤ 9999 then paddedDigits 4 year.natAbs
  else (if year < 0 then '-' else '+') :: paddedDigits 4 year.natAbs

def fractionText (nanos : Nat) : List Char :=
  if nanos = 0 then []
  else if nanos % 1000000 = 0 then '.' :: paddedDigits 3 (nanos / 1000000)
  else if nanos % 1000 = 0 then '.' :: paddedDigits 6 (nanos / 1000)
  else '.' :: paddedDigits 9 nanos

def chars (zone : String) (t : Instant) : List Char :=
  let r := t.reading
  yearText r.date.year ++ '-' :: paddedDigits 2 r.date.month ++ '-' :: paddedDigits 2 r.date.day ++
    'T' :: paddedDigits 2 r.hour ++ ':' :: paddedDigits 2 r.minute ++
    ':' :: paddedDigits 2 r.second ++ fractionText r.nanos ++ zone.toList

def offsetText (t : Instant) : String := String.ofList (t.chars "+00:00")

def zuluText (t : Instant) : String := String.ofList (t.chars "Z")

end Instant

end DocumentClient
