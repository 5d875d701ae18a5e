import DocumentClient.Binary64

/-!
The shortest decimal that reads back as a given number: among the powers of ten, the coarsest one
that has a multiple nearer to the number than to any other representable number, and of its
multiples the nearest, the even one of two equally near.
-/

namespace DocumentClient.Binary64.Shortest

structure Interval where
  low : Nat
  value : Nat
  high : Nat
  closed : Bool

def Interval.ofFinite (m : Nat) (e : Int) : Interval where
  low := if m = fullSignificand ∧ -1074 < e then 4 * m - 1 else 4 * m - 2
  value := 4 * m
  high := 4 * m + 2
  closed := m % 2 = 0

def Interval.holds (i : Interval) (up down c : Nat) : Bool :=
  let above := if i.closed then i.low * up ≤ c * down else i.low * up < c * down
  let below := if i.closed then c * down ≤ i.high * up else c * down < i.high * up
  above && below

def nearestMultiple? (i : Interval) (e k : Int) : Option Nat :=
  let up := Nat.pow 2 (e - 2).toNat * Nat.pow 10 (-k).toNat
  let down := Nat.pow 2 (2 - e).toNat * Nat.pow 10 k.toNat
  let c := i.value * up / down
  let r := 2 * (i.value * up % down)
  let nearer := if r < down ∨ r = down ∧ c % 2 = 0 then [c, c + 1] else [c + 1, c]
  nearer.find? (i.holds up down)

def search (i : Interval) (e : Int) : Nat → Int → Nat × Int
  | 0, k => (0, k)
  | fuel + 1, k =>
    match nearestMultiple? i e k with
    | some c => (c, k)
    | none => search i e fuel (k - 1)

def startExponent (i : Interval) (e : Int) : Int :=
  ((i.high.log2 : Int) + e - 1) * 30103 / 100000 + 1

def decimal (m : Nat) (e : Int) : Nat × Int :=
  let i := Interval.ofFinite m e
  search i e 25 (startExponent i e)

end DocumentClient.Binary64.Shortest
