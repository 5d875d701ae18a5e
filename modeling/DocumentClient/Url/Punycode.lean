/-!
Punycode, the form of a name's label that keeps to ASCII: the ASCII characters first, then for every
other one, in the order of code points, how far to go on to its place.
-/

namespace DocumentClient.Url.Punycode

def digitChar (d : Nat) : Char :=
  Char.ofNat (if d < 26 then 'a'.toNat + d else '0'.toNat + (d - 26))

def digitValue? (c : Char) : Option Nat :=
  if c.isDigit then some (c.toNat - '0'.toNat + 26)
  else if c.isLower then some (c.toNat - 'a'.toNat)
  else if c.isUpper then some (c.toNat - 'A'.toNat)
  else none

def threshold (k bias : Nat) : Nat := min 26 (max 1 (k - bias))

def shrink : Nat → Nat → Nat → Nat × Nat
  | 0, delta, k => (delta, k)
  | fuel + 1, delta, k => if 455 < delta then shrink fuel (delta / 35) (k + 36) else (delta, k)

def adapt (delta count : Nat) (first : Bool) : Nat :=
  let delta := if first then delta / 700 else delta / 2
  let delta := delta + delta / count
  let (delta, k) := shrink delta.log2 delta 0
  k + 36 * delta / (delta + 38)

def stepDigits : Nat → Nat → Nat → Nat → List Char
  | 0, _, _, q => [digitChar q]
  | fuel + 1, bias, k, q =>
    let t := threshold k bias
    if q < t then [digitChar q]
    else digitChar (t + (q - t) % (36 - t)) :: stepDigits fuel bias (k + 36) ((q - t) / (36 - t))

structure State where
  delta : Nat := 0
  bias : Nat := 72
  placed : Nat
  output : List Char

def State.pass (basic n : Nat) (st : State) (c : Nat) : State :=
  if c < n then { st with delta := st.delta + 1 }
  else if c = n then
    { delta := 0
      bias := adapt st.delta (st.placed + 1) (st.placed == basic)
      placed := st.placed + 1
      output := st.output ++ stepDigits (st.delta.log2 + 1) st.bias 36 st.delta }
  else st

def placeAll (codes : List Nat) (basic : Nat) : Nat → State → List Nat → State
  | _, st, [] => st
  | n, st, m :: ms =>
    let st := { st with delta := st.delta + (m - n) * (st.placed + 1) }
    let st := codes.foldl (State.pass basic m) st
    placeAll codes basic (m + 1) { st with delta := st.delta + 1 } ms

def encode (s : List Char) : List Char :=
  let codes := s.map Char.toNat
  let basic := s.filter (·.toNat < 128)
  let others := ((codes.filter (128 ≤ ·)).mergeSort).eraseDups
  let start : State :=
    { placed := basic.length
      output := if basic.isEmpty then [] else basic ++ ['-'] }
  (placeAll codes basic.length 128 start others).output

def readStep (bias : Nat) : Nat → Nat → Nat → List Char → Option (Nat × List Char)
  | _, _, _, [] => none
  | k, weight, acc, c :: cs => do
    let d ← digitValue? c
    let t := threshold k bias
    let acc := acc + d * weight
    if d < t then some (acc, cs)
    else if weight * (36 - t) < UInt32.size then
      readStep bias (k + 36) (weight * (36 - t)) acc cs
    else none

def insertAll : Nat → Bool → Nat → Nat → Nat → List Char → List Char → Option (List Char)
  | _, _, _, _, _, placed, [] => some placed
  | 0, _, _, _, _, _, _ => none
  | fuel + 1, first, n, i, bias, placed, s => do
    let (delta, rest) ← readStep bias 36 1 0 s
    let count := placed.length + 1
    let n := n + (i + delta) / count
    let i := (i + delta) % count
    guard n.isValidChar
    let placed := placed.take i ++ Char.ofNat n :: placed.drop i
    insertAll fuel false n (i + 1) (adapt delta count first) placed rest

def decode (s : List Char) : Option (List Char) :=
  let tail := (s.reverse.takeWhile (· ≠ '-')).reverse
  let basic := (s.take (s.length - tail.length)).dropLast
  let tail := if basic.isEmpty then s else tail
  insertAll s.length true 128 0 72 basic tail

end DocumentClient.Url.Punycode
