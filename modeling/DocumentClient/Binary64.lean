namespace DocumentClient

inductive Binary64
  | finite (negative : Bool) (significand : Nat) (exponent : Int)
  | infinite (negative : Bool)
  | nan
  deriving DecidableEq, Repr

namespace Binary64

def significandEnd : Nat := Nat.pow 2 53

def fullSignificand : Nat := Nat.pow 2 52

/-- Each value has one such form, the two zeros apart. -/
def Canonical : Binary64 → Prop
  | finite _ m e =>
    m < significandEnd ∧ -1074 ≤ e ∧ e ≤ 971 ∧ (fullSignificand ≤ m ∨ e = -1074)
  | infinite _ => True
  | nan => True

instance : DecidablePred Canonical := fun x => by
  cases x <;> unfold Canonical <;> infer_instance

def zero (negative : Bool) : Binary64 := finite negative 0 (-1074)

def isFinite : Binary64 → Bool
  | finite _ _ _ => true
  | _ => false

def sameNumber : Binary64 → Binary64 → Bool
  | finite s m e, finite t n f => (m == 0 && n == 0) || (s == t && m == n && e == f)
  | infinite s, infinite t => s == t
  | _, _ => false

theorem sameNumber_self {x : Binary64} (h : x ≠ nan) : sameNumber x x = true := by
  cases x <;> simp_all [sameNumber]

theorem sameNumber_comm (x y : Binary64) : sameNumber x y = sameNumber y x := by
  cases x <;> cases y <;> simp [sameNumber, Bool.and_comm, Bool.beq_comm]

end Binary64

end DocumentClient
