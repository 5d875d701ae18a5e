import DocumentClient.Binary64

namespace DocumentClient.Binary64

def scaled (num den : Nat) (e : Int) : Nat × Nat :=
  (num * Nat.pow 2 (-e).toNat, den * Nat.pow 2 e.toNat)

def nearest (num den : Nat) : Nat :=
  let q := num / den
  let r := num % den
  if 2 * r < den then q else if den < 2 * r then q + 1 else q + q % 2

def gridExponent (num den : Nat) : Int :=
  let l : Int := (num.log2 : Int) - den.log2
  let (a, b) := scaled num den l
  max ((if a < b then l - 1 else l) - 52) (-1074)

def ofGrid (negative : Bool) (m : Nat) (e : Int) : Binary64 :=
  let (m, e) := if m < significandEnd then (m, e) else (fullSignificand, e + 1)
  if e ≤ 971 then finite negative m e else infinite negative

def ofRatio (negative : Bool) (num den : Nat) : Binary64 :=
  if num = 0 then zero negative
  else
    let e := gridExponent num den
    let (a, b) := scaled num den e
    ofGrid negative (nearest a b) e

def ofInt (n : Int) : Binary64 := ofRatio (n < 0) n.natAbs 1

def ofDecimal (negative : Bool) (digits : Nat) (exponent : Int) : Binary64 :=
  ofRatio negative (digits * Nat.pow 10 exponent.toNat) (Nat.pow 10 (-exponent).toNat)

def mul : Binary64 → Binary64 → Binary64
  | finite s m e, finite t n f =>
    let (a, b) := scaled (m * n) 1 (-(e + f))
    ofRatio (s != t) a b
  | finite s m _, infinite t | infinite t, finite s m _ =>
    if m = 0 then nan else infinite (s != t)
  | infinite s, infinite t => infinite (s != t)
  | nan, _ | _, nan => nan

def div : Binary64 → Binary64 → Binary64
  | finite s m e, finite t n f =>
    if n = 0 then (if m = 0 then nan else infinite (s != t))
    else
      let (a, b) := scaled m n (f - e)
      ofRatio (s != t) a b
  | finite s _ _, infinite t => zero (s != t)
  | infinite s, finite t _ _ => infinite (s != t)
  | infinite _, infinite _ => nan
  | nan, _ | _, nan => nan

end DocumentClient.Binary64
