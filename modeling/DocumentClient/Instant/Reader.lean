import DocumentClient.Instant
import DocumentClient.Text.Blank

namespace DocumentClient.Instant.Reader

open Text

def expect? (c : Char) : List Char → Option (List Char)
  | [] => none
  | d :: s => if d = c then some s else none

def digits? (least limit : Nat) (s : List Char) : Option (Nat × List Char) :=
  let ds := (s.take limit).takeWhile Char.isDigit
  if least ≤ ds.length then some (ofDigits ds, s.drop ds.length) else none

def nanos? : List Char → Option (Nat × List Char)
  | '.' :: s => do
    let ds := (s.take 9).takeWhile Char.isDigit
    guard (ds ≠ [])
    some (ofDigits ds * Nat.pow 10 (9 - ds.length), (s.drop ds.length).dropWhile Char.isDigit)
  | s => some (0, s)

def offset? : List Char → Option (Int × List Char)
  | [] => none
  | c :: s =>
    if c = 'Z' ∨ c = 'z' then some (0, s)
    else do
      guard (c = '+' ∨ c = '-' ∨ c = '−')
      let (hours, s) ← digits? 2 2 s
      let s ← expect? ':' s
      let (minutes, s) ← digits? 2 2 s
      guard (hours ≤ 23 ∧ minutes ≤ 59)
      let seconds : Int := hours * 3600 + minutes * 60
      some (if c = '+' then seconds else -seconds, s)

def isDateEnd (c : Char) : Bool := c = 'T' || c = 't' || c = ' '

def rfc3339? (s : List Char) : Option Instant := do
  let (year, s) ← digits? 4 4 s
  let s ← expect? '-' s
  let (month, s) ← digits? 2 2 s
  let s ← expect? '-' s
  let (day, s) ← digits? 2 2 s
  let (c, s) ← s.head?.map (·, s.tail)
  guard (isDateEnd c)
  let (hour, s) ← digits? 2 2 s
  let s ← expect? ':' s
  let (minute, s) ← digits? 2 2 s
  let s ← expect? ':' s
  let (second, s) ← digits? 2 2 s
  let (nanos, s) ← nanos? s
  let (offset, s) ← offset? s
  guard (s = [])
  let r : ClockReading := ⟨⟨year, month, day⟩, hour, minute, second, nanos⟩
  if r.Valid then some (r.toInstant offset) else none

def loose? (limit : Nat) (s : List Char) : Option (Nat × List Char) :=
  digits? 1 limit (s.dropWhile isBlank)

def looseYear? (s : List Char) : Option (Int × List Char) :=
  match s.dropWhile isBlank with
  | '-' :: s => (digits? 1 s.length s).map fun (n, s) => (-n, s)
  | '+' :: s => (digits? 1 s.length s).map fun (n, s) => (n, s)
  | s => (digits? 1 4 s).map fun (n, s) => (n, s)

inductive Separator
  | blank
  | letter
  deriving DecidableEq, Repr

def Separator.skip? : Separator → List Char → Option (List Char)
  | blank, s => some (s.dropWhile isBlank)
  | letter, s => expect? 'T' s

def naive? (separator : Separator) (s : List Char) : Option Instant := do
  let (year, s) ← looseYear? s
  let s ← expect? '-' s
  let (month, s) ← loose? 2 s
  let s ← expect? '-' s
  let (day, s) ← loose? 2 s
  let s ← separator.skip? s
  let (hour, s) ← loose? 2 s
  let s ← expect? ':' s
  let (minute, s) ← loose? 2 s
  let s ← expect? ':' s
  let (second, s) ← loose? 2 s
  let (nanos, s) ← nanos? s
  guard (s = [])
  guard (firstYear ≤ year ∧ year ≤ lastYear)
  let r : ClockReading := ⟨⟨year, month, day⟩, hour, minute, second, nanos⟩
  if r.Valid then some (r.toInstant 0) else none

end DocumentClient.Instant.Reader

namespace DocumentClient.Instant

open Reader

def ofText? (s : String) : Option Instant :=
  let s := s.toList
  (rfc3339? s).or ((naive? .blank s).or (naive? .letter s))

end DocumentClient.Instant
