import DocumentClient.Proofs.Binary64.Value
import Mathlib.Tactic.Linarith

namespace DocumentClient.Binary64

/-- No floating-point number is nearer to `q`, and none is equally near unless `m` is even. -/
structure IsNearest (q : ℚ) (m : Nat) (e : Int) : Prop where
  canonical : (finite false m e).Canonical
  le : ∀ (y : Binary64) v, y.Canonical → y.value? = some v → |magnitude m e - q| ≤ |v - q|
  even : ∀ (y : Binary64) v, y.Canonical → y.value? = some v → v ≠ magnitude m e →
    |v - q| = |magnitude m e - q| → m % 2 = 0

def overflow : ℚ := magnitude (2 ^ 54 - 1) 970

/-- The number without a minus sign that `q` is rounded to. -/
inductive Rounds (q : ℚ) : Binary64 → Prop
  | finite {m : Nat} {e : Int} : q < overflow → IsNearest q m e → Rounds q (finite false m e)
  | infinite : overflow ≤ q → Rounds q (infinite false)

theorem abs_sub_lt_of_between {a w b q : ℚ} (ha : a < w) (hb : w < b) (h : |a - q| = |b - q|) :
    |w - q| < |a - q| := by
  have hq : b - q = q - a := by
    rcases abs_eq_abs.1 h with h | h <;> linarith
  have ha' : |a - q| = q - a := by
    rw [abs_sub_comm]
    exact abs_of_nonneg (by linarith)
  rw [ha', abs_lt]
  constructor <;> linarith

namespace IsNearest

variable {q : ℚ} {m n : Nat} {e f : Int}

theorem abs_eq (h : IsNearest q m e) (h' : IsNearest q n f) :
    |magnitude m e - q| = |magnitude n f - q| :=
  le_antisymm (h.le _ _ h'.canonical rfl) (h'.le _ _ h.canonical rfl)

theorem not_magnitude_lt (h : IsNearest q m e) (h' : IsNearest q n f) :
    ¬ magnitude m e < magnitude n f := by
  intro hlt
  have habs := h.abs_eq h'
  have hm : m % 2 = 0 := h.even _ _ h'.canonical rfl hlt.ne' habs.symm
  have hn : n % 2 = 0 := h'.even _ _ h.canonical rfl hlt.ne habs
  have hsucc : (Binary64.finite false (m + 1) e).Canonical :=
    h.canonical.succ (by have := h.canonical.lt; omega)
  have hle := h.canonical.magnitude_succ_le h'.canonical hlt
  rcases hle.eq_or_lt with heq | hbetween
  · obtain ⟨hodd, -⟩ := hsucc.eq_of_magnitude_eq h'.canonical heq
    omega
  · have hnearer := abs_sub_lt_of_between (magnitude_lt_iff.2 m.lt_succ_self) hbetween habs
    exact (h.le _ _ hsucc rfl).not_gt hnearer

theorem unique (h : IsNearest q m e) (h' : IsNearest q n f) : m = n ∧ e = f := by
  apply h.canonical.eq_of_magnitude_eq h'.canonical
  exact le_antisymm (not_lt.1 (h'.not_magnitude_lt h)) (not_lt.1 (h.not_magnitude_lt h'))

end IsNearest

theorem Rounds.unique {q : ℚ} {x y : Binary64} (hx : Rounds q x) (hy : Rounds q y) : x = y := by
  cases hx with
  | finite hq h =>
    cases hy with
    | finite _ h' =>
      obtain ⟨rfl, rfl⟩ := h.unique h'
      rfl
    | infinite hq' => exact absurd hq hq'.not_gt
  | infinite hq =>
    cases hy with
    | finite hq' _ => exact absurd hq' hq.not_gt
    | infinite _ => rfl

def OnGrid (q : ℚ) (m : Nat) (e : Int) : Prop :=
  |magnitude m e - q| < 2 ^ (e - 1) ∨ |magnitude m e - q| = 2 ^ (e - 1) ∧ m % 2 = 0

section

variable {q : ℚ} {m : Nat} {e : Int}

theorem two_zpow_le_abs_sub {k : Nat} (h : k ≠ m) :
    (2 : ℚ) ^ e ≤ |magnitude k e - magnitude m e| := by
  have hone : (1 : ℚ) ≤ |(k : ℚ) - m| := by
    exact_mod_cast Int.one_le_abs (sub_ne_zero.2 (by exact_mod_cast h : (k : Int) ≠ m))
  have hpos := two_zpow_pos e
  rw [magnitude, magnitude, ← sub_mul, abs_mul, abs_of_pos hpos]
  exact le_mul_of_one_le_left hpos.le hone

theorem OnGrid.le {k : Nat} (h : OnGrid q m e) :
    |magnitude m e - q| ≤ |magnitude k e - q| ∧
      (k ≠ m → |magnitude k e - q| = |magnitude m e - q| → m % 2 = 0) := by
  by_cases hk : k = m
  · subst hk
    exact ⟨le_rfl, fun hne => absurd rfl hne⟩
  · have hstep := two_zpow_le_abs_sub (e := e) hk
    have htriangle : |magnitude k e - magnitude m e| ≤
        |magnitude k e - q| + |magnitude m e - q| := by
      rw [abs_sub_comm (magnitude m e) q]
      exact abs_sub_le _ _ _
    rw [two_zpow_eq_double] at hstep
    rcases h with hlt | ⟨heq, heven⟩
    · exact ⟨by linarith, fun _ heq => by linarith⟩
    · exact ⟨by linarith, fun _ _ => heven⟩

theorem exists_onGrid (hq : 0 ≤ q) (hfull : -1074 < e → magnitude (2 ^ 52) e ≤ q) {y : Binary64}
    {v : ℚ} (hy : y.Canonical) (hv : y.value? = some v) :
    ∃ k, v = magnitude k e ∨ |magnitude k e - q| < |v - q| := by
  cases y with
  | infinite | nan => simp [value?] at hv
  | finite s n f =>
    have hn := magnitude_nonneg n f
    cases s with
    | true =>
      obtain rfl : -magnitude n f = v := Option.some.inj hv
      refine ⟨0, ?_⟩
      have hzero : magnitude 0 e = 0 := by simp [magnitude]
      rw [hzero]
      rcases hn.eq_or_lt with heq | hpos
      · exact Or.inl (by rw [← heq, neg_zero])
      · right
        rw [zero_sub, abs_neg, abs_of_nonneg hq, abs_of_neg (by linarith)]
        linarith
    | false =>
      obtain rfl : magnitude n f = v := Option.some.inj hv
      rcases Int.lt_or_le f e with hf | hf
      · refine ⟨2 ^ 52, Or.inr ?_⟩
        have hbelow := hy.magnitude_lt hf
        have habove := hfull (by have := hy.le_exponent; omega)
        rw [abs_of_nonpos (by linarith), abs_of_neg (by linarith)]
        linarith
      · exact ⟨_, Or.inl (magnitude_eq_of_le hf)⟩

theorem OnGrid.isNearest {n : Nat} {f : Int} (h : OnGrid q m e) (hq : 0 ≤ q)
    (hfull : -1074 < e → magnitude (2 ^ 52) e ≤ q) (hn : (finite false n f).Canonical)
    (hvalue : magnitude n f = magnitude m e) (heven : m % 2 = 0 → n % 2 = 0) :
    IsNearest q n f where
  canonical := hn
  le := by
    intro y v hy hv
    rw [hvalue]
    obtain ⟨k, rfl | hk⟩ := exists_onGrid hq hfull hy hv
    · exact h.le.1
    · exact (h.le.1.trans_lt hk).le
  even := by
    intro y v hy hv hne heq
    rw [hvalue] at hne heq
    apply heven
    obtain ⟨k, rfl | hk⟩ := exists_onGrid hq hfull hy hv
    · exact h.le.2 (fun hkm => hne (by rw [hkm])) heq
    · exact absurd (h.le.1.trans_lt hk) heq.not_gt

namespace OnGrid

theorem close (h : OnGrid q m e) : |magnitude m e - q| ≤ 2 ^ (e - 1) :=
  h.elim le_of_lt fun heq => heq.1.le

theorem le_add (h : OnGrid q m e) : q ≤ magnitude (2 * m + 1) (e - 1) := by
  rw [magnitude_succ, magnitude_double]
  have := (abs_le.1 h.close).1
  linarith

theorem lt_add_of_odd (h : OnGrid q m e) (hm : m % 2 = 1) :
    q < magnitude (2 * m + 1) (e - 1) := by
  rw [magnitude_succ, magnitude_double]
  rcases h with hlt | ⟨-, heven⟩
  · have := (abs_lt.1 hlt).1
    linarith
  · omega

theorem sub_le {n : Nat} (h : OnGrid q m e) (hn : n + 1 = 2 * m) : magnitude n (e - 1) ≤ q := by
  have hle := (abs_le.1 h.close).2
  rw [← magnitude_double, ← hn, magnitude_succ] at hle
  linarith

theorem le_of_lt_magnitude {n : Nat} (h : OnGrid q m e) (hq : q < magnitude n e) : m ≤ n := by
  by_contra hlt
  obtain ⟨k, hk⟩ : ∃ k, k + 1 = 2 * m := ⟨2 * m - 1, by omega⟩
  rw [← magnitude_double] at hq
  have := magnitude_lt_iff.1 ((h.sub_le hk).trans_lt hq)
  omega

theorem ge_of_magnitude_le {n : Nat} (h : OnGrid q m e) (hq : magnitude n e ≤ q) : n ≤ m := by
  rw [← magnitude_double] at hq
  have := magnitude_le_iff.1 (hq.trans h.le_add)
  omega

end OnGrid

end

end DocumentClient.Binary64
