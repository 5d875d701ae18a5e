import DocumentClient.Binary64.Rounding
import DocumentClient.Proofs.Binary64.Nearest
import Mathlib.Tactic.FieldSimp
import Mathlib.Tactic.Positivity

namespace DocumentClient.Binary64

section

variable {a b : Nat}

theorem div_eq_add_mod (hb : 0 < b) : (a : ℚ) / b = (a / b : Nat) + (a % b : Nat) / b := by
  have hb' : (b : ℚ) ≠ 0 := by exact_mod_cast hb.ne'
  field_simp
  exact_mod_cast (Nat.div_add_mod a b).symm

theorem abs_nearest_sub (hb : 0 < b) :
    |(nearest a b : ℚ) - a / b| < 1 / 2 ∨
      |(nearest a b : ℚ) - a / b| = 1 / 2 ∧ nearest a b % 2 = 0 := by
  have hb' : (0 : ℚ) < b := by exact_mod_cast hb
  have hrest : (0 : ℚ) ≤ (a % b : Nat) / b := by positivity
  rw [div_eq_add_mod hb, nearest]
  rcases Nat.lt_trichotomy (2 * (a % b)) b with hlt | heq | hgt
  · left
    have hless : ((a % b : Nat) : ℚ) / b < 1 / 2 := by
      rw [div_lt_div_iff₀ hb' two_pos]
      exact_mod_cast (by omega : a % b * 2 < 1 * b)
    rw [if_pos hlt, abs_lt]
    constructor <;> linarith
  · right
    have hhalf : ((a % b : Nat) : ℚ) / b = 1 / 2 := by
      rw [div_eq_div_iff hb'.ne' two_ne_zero]
      exact_mod_cast (by omega : a % b * 2 = 1 * b)
    rw [if_neg (by omega), if_neg (by omega), hhalf]
    refine ⟨?_, by omega⟩
    rcases Nat.mod_two_eq_zero_or_one (a / b) with h | h <;> rw [h] <;> norm_num
  · left
    have hmore : 1 / 2 < ((a % b : Nat) : ℚ) / b := by
      rw [div_lt_div_iff₀ two_pos hb']
      exact_mod_cast (by omega : 1 * b < a % b * 2)
    have hone : ((a % b : Nat) : ℚ) / b < 1 := by
      rw [div_lt_one hb']
      exact_mod_cast Nat.mod_lt a hb
    rw [if_neg (by omega), if_pos hgt, abs_lt]
    push_cast
    constructor <;> linarith

end

section

variable {num den : Nat}

theorem scaled_pos (hd : 0 < den) (e : Int) : 0 < (scaled num den e).2 :=
  Nat.mul_pos hd (Nat.two_pow_pos e.toNat)

theorem scaled_eq (hd : 0 < den) (e : Int) :
    ((scaled num den e).1 : ℚ) / (scaled num den e).2 = num / den / 2 ^ e := by
  have hd' : (den : ℚ) ≠ 0 := by exact_mod_cast hd.ne'
  obtain ⟨k, rfl | rfl⟩ := e.eq_nat_or_neg
  · simp [scaled, div_div]
  · simp [scaled]
    field_simp

theorem two_zpow_log2_le (hn : 0 < num) (hd : 0 < den) :
    (2 : ℚ) ^ ((num.log2 : Int) - den.log2 - 1) ≤ num / den ∧
      (num : ℚ) / den < 2 ^ ((num.log2 : Int) - den.log2 + 1) := by
  have hden : (0 : ℚ) < den := by exact_mod_cast hd
  have hnum : (2 : ℚ) ^ (num.log2 : Int) ≤ num ∧ (num : ℚ) < 2 ^ ((num.log2 : Int) + 1) := by
    constructor
    · exact_mod_cast Nat.log2_self_le hn.ne'
    · exact_mod_cast Nat.lt_log2_self (n := num)
  have hden' : (2 : ℚ) ^ (den.log2 : Int) ≤ den ∧ (den : ℚ) < 2 ^ ((den.log2 : Int) + 1) := by
    constructor
    · exact_mod_cast Nat.log2_self_le hd.ne'
    · exact_mod_cast Nat.lt_log2_self (n := den)
  constructor
  · rw [le_div_iff₀ hden]
    calc
      (2 : ℚ) ^ ((num.log2 : Int) - den.log2 - 1) * den ≤
          2 ^ ((num.log2 : Int) - den.log2 - 1) * 2 ^ ((den.log2 : Int) + 1) :=
        mul_le_mul_of_nonneg_left hden'.2.le (two_zpow_pos _).le
      _ = 2 ^ (num.log2 : Int) := by
        rw [← zpow_add₀ two_ne_zero]
        congr 1
        ring
      _ ≤ num := hnum.1
  · rw [div_lt_iff₀ hden]
    calc
      (num : ℚ) < 2 ^ ((num.log2 : Int) + 1) := hnum.2
      _ = 2 ^ ((num.log2 : Int) - den.log2 + 1) * 2 ^ (den.log2 : Int) := by
        rw [← zpow_add₀ two_ne_zero]
        congr 1
        ring
      _ ≤ 2 ^ ((num.log2 : Int) - den.log2 + 1) * den :=
        mul_le_mul_of_nonneg_left hden'.1 (two_zpow_pos _).le

theorem gridExponent_eq (hn : 0 < num) (hd : 0 < den) :
    ∃ k : Int, gridExponent num den = max (k - 52) (-1074) ∧
      (2 : ℚ) ^ k ≤ num / den ∧ (num : ℚ) / den < 2 ^ (k + 1) := by
  obtain ⟨hlow, hhigh⟩ := two_zpow_log2_le hn hd
  set l : Int := (num.log2 : Int) - den.log2 with hl
  have hpos : (0 : ℚ) < (scaled num den l).2 := by exact_mod_cast scaled_pos hd l
  have hless : (scaled num den l).1 < (scaled num den l).2 ↔ (num : ℚ) / den < 2 ^ l := by
    rw [← Nat.cast_lt (α := ℚ), ← div_lt_one hpos, scaled_eq hd, div_lt_one (two_zpow_pos l)]
  by_cases h : (scaled num den l).1 < (scaled num den l).2
  · refine ⟨l - 1, by simp [gridExponent, ← hl, h], hlow, ?_⟩
    rw [sub_add_cancel]
    exact hless.1 h
  · exact ⟨l, by simp [gridExponent, ← hl, h], not_lt.1 fun hlt => h (hless.2 hlt), hhigh⟩

end

section

variable {q : ℚ} {m : Nat} {e : Int} {s : Bool}

theorem magnitude_le_overflow {n : Nat} {f : Int} (hn : n ≤ 2 ^ 54 - 1) (hf : f ≤ 970) :
    magnitude n f ≤ overflow :=
  (magnitude_le_iff.2 hn).trans (magnitude_mono hf _)

theorem overflow_le_magnitude {n : Nat} {f : Int} (hn : 2 ^ 54 - 1 ≤ n) (hf : 970 ≤ f) :
    overflow ≤ magnitude n f :=
  (magnitude_mono hf _).trans (magnitude_le_iff.2 hn)

theorem ofGrid_of_lt (hm : m < significandEnd) :
    ofGrid s m e = if e ≤ 971 then finite s m e else infinite s := by
  rw [ofGrid, if_pos hm]

theorem ofGrid_significandEnd :
    ofGrid s significandEnd e =
      if e + 1 ≤ 971 then finite s fullSignificand (e + 1) else infinite s := by
  rw [ofGrid, if_neg (lt_irrefl _)]

theorem rounds_ofGrid (h : OnGrid q m e) (he : -1074 ≤ e) (hq : 0 ≤ q)
    (hlt : q < magnitude (2 ^ 53) e) (hfull : -1074 < e → magnitude (2 ^ 52) e ≤ q) :
    Rounds q (ofGrid false m e) := by
  rcases (h.le_of_lt_magnitude hlt).lt_or_eq with hm | rfl
  · rw [ofGrid_of_lt hm]
    split
    · next hlarge =>
      have hcanonical : (finite false m e).Canonical := by
        refine ⟨hm, he, hlarge, ?_⟩
        rcases he.eq_or_lt with heq | hgt
        · exact Or.inr heq.symm
        · exact Or.inl (h.ge_of_magnitude_le (hfull hgt))
      refine .finite ?_ (h.isNearest hq hfull hcanonical rfl id)
      rcases Nat.mod_two_eq_zero_or_one m with heven | hodd
      · calc
          q ≤ magnitude (2 * m + 1) (e - 1) := h.le_add
          _ < magnitude (2 ^ 54 - 1) (e - 1) := magnitude_lt_iff.2 (by omega)
          _ ≤ overflow := magnitude_le_overflow le_rfl (by omega)
      · exact (h.lt_add_of_odd hodd).trans_le (magnitude_le_overflow (by omega) (by omega))
    · next hlarge =>
      refine .infinite ?_
      calc
        overflow ≤ magnitude (2 * (2 * 2 ^ 52)) (e - 1 - 1) :=
          overflow_le_magnitude (by norm_num) (by omega)
        _ = magnitude (2 ^ 52) e := by rw [magnitude_double, magnitude_double]
        _ ≤ q := hfull (by omega)
  · have hcarry : magnitude fullSignificand (e + 1) = magnitude (2 ^ 53) e := by
      rw [← magnitude_double, add_sub_cancel_right]
      rfl
    change Rounds q (ofGrid false significandEnd e)
    rw [ofGrid_significandEnd]
    split
    · next hlarge =>
      have hcanonical : (finite false fullSignificand (e + 1)).Canonical :=
        ⟨by decide, by omega, hlarge, Or.inl le_rfl⟩
      refine .finite (hlt.trans_le (magnitude_le_overflow (by norm_num) (by omega))) ?_
      exact h.isNearest hq hfull hcanonical hcarry fun _ => rfl
    · next hlarge =>
      refine .infinite ?_
      calc
        overflow ≤ magnitude (2 ^ 54 - 1) (e - 1) := overflow_le_magnitude le_rfl (by omega)
        _ ≤ q := h.sub_le (by norm_num)

end

section

variable {num den : Nat}

theorem onGrid_nearest (hd : 0 < den) (e : Int) :
    OnGrid (num / den) (nearest (scaled num den e).1 (scaled num den e).2) e := by
  have hpos := two_zpow_pos e
  have hhalf : (2 : ℚ) ^ (e - 1) = 1 / 2 * 2 ^ e := by
    rw [two_zpow_eq_double e]
    ring
  have habs : ∀ m : Nat, |magnitude m e - num / den| =
      |(m : ℚ) - (scaled num den e).1 / (scaled num den e).2| * 2 ^ e := by
    intro m
    rw [scaled_eq hd, ← abs_of_pos hpos, ← abs_mul, abs_of_pos hpos, sub_mul,
      div_mul_cancel₀ _ hpos.ne']
    rfl
  rw [OnGrid, habs, hhalf]
  rcases abs_nearest_sub (a := (scaled num den e).1) (scaled_pos hd e) with hlt | ⟨heq, heven⟩
  · exact Or.inl (mul_lt_mul_of_pos_right hlt hpos)
  · exact Or.inr ⟨by rw [heq], heven⟩

theorem rounds_zero : Rounds 0 (zero false) := by
  have hpos : (0 : ℚ) < overflow := mul_pos (by norm_num) (two_zpow_pos _)
  have hzero : magnitude 0 (-1074) = 0 := by simp [magnitude]
  refine .finite hpos ⟨by decide, fun y v _ _ => ?_, fun _ _ _ _ _ _ => rfl⟩
  rw [hzero, sub_self, abs_zero]
  exact abs_nonneg _

theorem rounds_ofRatio (hd : 0 < den) : Rounds (num / den) (ofRatio false num den) := by
  rw [ofRatio]
  split
  · next hzero =>
    rw [hzero, Nat.cast_zero, zero_div]
    exact rounds_zero
  · next hnum =>
    obtain ⟨k, hk, hlow, hhigh⟩ := gridExponent_eq (Nat.pos_of_ne_zero hnum) hd
    refine rounds_ofGrid (onGrid_nearest hd _) (by omega) (by positivity) ?_ fun he => ?_
    · rw [magnitude_two_pow]
      exact hhigh.trans_le (zpow_le_zpow_right₀ one_le_two (by omega))
    · rw [magnitude_two_pow]
      exact hlow.trans' (zpow_le_zpow_right₀ one_le_two (by omega))

theorem rounds_ofDecimal (n : Nat) (k : Int) : Rounds (n * 10 ^ k) (ofDecimal false n k) := by
  have hratio : (n : ℚ) * 10 ^ k =
      ((n * Nat.pow 10 k.toNat : Nat) : ℚ) / (Nat.pow 10 (-k).toNat : Nat) := by
    obtain ⟨j, rfl | rfl⟩ := k.eq_nat_or_neg
    · simp
    · simp [div_eq_mul_inv]
  rw [hratio, ofDecimal]
  exact rounds_ofRatio (Nat.pow_pos (by decide))

end

end DocumentClient.Binary64
