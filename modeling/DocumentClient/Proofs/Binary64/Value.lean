import DocumentClient.Binary64
import Mathlib.Algebra.Order.Field.Power
import Mathlib.Algebra.Order.Ring.Rat
import Mathlib.Data.Rat.Cast.Defs
import Mathlib.Tactic.NormNum
import Mathlib.Tactic.Ring

namespace DocumentClient.Binary64

def magnitude (m : Nat) (e : Int) : ℚ := m * (2 : ℚ) ^ e

def value? : Binary64 → Option ℚ
  | finite true m e => some (-magnitude m e)
  | finite false m e => some (magnitude m e)
  | infinite _ | nan => none

variable {m n : Nat} {e f : Int} {s t : Bool}

theorem two_zpow_pos (e : Int) : (0 : ℚ) < 2 ^ e := zpow_pos (by norm_num) e

theorem two_zpow_eq_double (e : Int) : (2 : ℚ) ^ e = 2 * 2 ^ (e - 1) := by
  rw [← zpow_one_add₀ two_ne_zero, add_sub_cancel]

theorem magnitude_nonneg (m : Nat) (e : Int) : 0 ≤ magnitude m e :=
  mul_nonneg (Nat.cast_nonneg m) (two_zpow_pos e).le

theorem magnitude_lt_iff : magnitude m e < magnitude n e ↔ m < n := by
  rw [magnitude, magnitude, mul_lt_mul_iff_left₀ (two_zpow_pos e), Nat.cast_lt]

theorem magnitude_le_iff : magnitude m e ≤ magnitude n e ↔ m ≤ n := by
  rw [magnitude, magnitude, mul_le_mul_iff_left₀ (two_zpow_pos e), Nat.cast_le]

theorem magnitude_eq_of_le (h : e ≤ f) : magnitude n f = magnitude (n * 2 ^ (f - e).toNat) e := by
  obtain ⟨d, rfl⟩ : ∃ d : Nat, f = d + e := ⟨(f - e).toNat, by omega⟩
  have hd : (d + e - e).toNat = d := by omega
  rw [hd, magnitude, magnitude, zpow_add₀ (by norm_num), zpow_natCast]
  push_cast
  ring

theorem magnitude_mono (h : e ≤ f) (m : Nat) : magnitude m e ≤ magnitude m f :=
  mul_le_mul_of_nonneg_left (zpow_le_zpow_right₀ one_le_two h) (Nat.cast_nonneg m)

theorem magnitude_double (m : Nat) (e : Int) : magnitude (2 * m) (e - 1) = magnitude m e := by
  rw [magnitude, magnitude, two_zpow_eq_double e]
  push_cast
  ring

theorem magnitude_succ (m : Nat) (e : Int) : magnitude (m + 1) e = magnitude m e + 2 ^ e := by
  rw [magnitude, magnitude]
  push_cast
  ring

theorem magnitude_two_pow (n : Nat) (e : Int) : magnitude (2 ^ n) e = 2 ^ (n + e) := by
  rw [magnitude, zpow_add₀ two_ne_zero, zpow_natCast]
  push_cast
  rfl

namespace Canonical

theorem lt (h : (finite s m e).Canonical) : m < 2 ^ 53 := h.1

theorem le_exponent (h : (finite s m e).Canonical) : -1074 ≤ e := h.2.1

theorem full (h : (finite s m e).Canonical) (he : -1074 < e) : 2 ^ 52 ≤ m := by
  rcases h.2.2.2 with h | h
  · exact h
  · omega

theorem magnitude_lt (h : (finite s n f).Canonical) (hf : f < e) :
    magnitude n f < magnitude (2 ^ 52) e := by
  have hstep : 2 ^ 1 ≤ 2 ^ (e - f).toNat := Nat.pow_le_pow_right (by decide) (by omega)
  have hfull : 2 ^ 53 ≤ 2 ^ 52 * 2 ^ (e - f).toNat := by omega
  rw [magnitude_eq_of_le hf.le, magnitude_lt_iff]
  exact h.lt.trans_le hfull

theorem exponent_le (hm : (finite s m e).Canonical) (hn : (finite t n f).Canonical)
    (h : magnitude m e ≤ magnitude n f) : e ≤ f := by
  by_contra hf
  have hfull : 2 ^ 52 ≤ m := hm.full (by have := hn.le_exponent; omega)
  have hbelow : magnitude n f < magnitude m e :=
    (hn.magnitude_lt (not_le.1 hf)).trans_le (magnitude_le_iff.2 hfull)
  exact hbelow.not_ge h

theorem eq_of_magnitude_eq (hm : (finite s m e).Canonical) (hn : (finite t n f).Canonical)
    (h : magnitude m e = magnitude n f) : m = n ∧ e = f := by
  obtain rfl : e = f := le_antisymm (hm.exponent_le hn h.le) (hn.exponent_le hm h.ge)
  exact ⟨le_antisymm (magnitude_le_iff.1 h.le) (magnitude_le_iff.1 h.ge), rfl⟩

theorem magnitude_succ_le (hm : (finite s m e).Canonical) (hn : (finite t n f).Canonical)
    (h : magnitude m e < magnitude n f) : magnitude (m + 1) e ≤ magnitude n f := by
  have hf : e ≤ f := hm.exponent_le hn h.le
  rw [magnitude_eq_of_le hf] at h ⊢
  exact magnitude_le_iff.2 (magnitude_lt_iff.1 h)

theorem succ (h : (finite s m e).Canonical) (hm : m + 1 < 2 ^ 53) :
    (finite s (m + 1) e).Canonical :=
  ⟨hm, h.2.1, h.2.2.1, h.2.2.2.imp_left fun hfull => Nat.le_succ_of_le hfull⟩

end Canonical

end DocumentClient.Binary64
