import DocumentClient.Proofs.Binary64.Rounding

namespace DocumentClient.Binary64

variable {x y z : Binary64} {q : ℚ} {m n : Nat} {e f : Int} {s : Bool}

theorem magnitude_zero (e : Int) : magnitude 0 e = 0 := by simp [magnitude]

theorem sameNumber_cases (h : sameNumber x y = true) :
    x = y ∨ ∃ s t e f, x = finite s 0 e ∧ y = finite t 0 f := by
  cases x with
  | finite s m e =>
    cases y with
    | finite t n f =>
      simp only [sameNumber, Bool.or_eq_true, Bool.and_eq_true, beq_iff_eq] at h
      rcases h with ⟨rfl, rfl⟩ | ⟨⟨rfl, rfl⟩, rfl⟩
      · exact Or.inr ⟨s, t, e, f, rfl, rfl⟩
      · exact Or.inl rfl
    | infinite | nan => simp [sameNumber] at h
  | infinite s => cases y <;> simp_all [sameNumber]
  | nan => simp [sameNumber] at h

theorem sameNumber_trans (hxy : sameNumber x y = true) (hyz : sameNumber y z = true) :
    sameNumber x z = true := by
  rcases sameNumber_cases hxy with rfl | ⟨s, t, e, f, rfl, rfl⟩
  · exact hyz
  · rcases sameNumber_cases hyz with rfl | ⟨-, u, -, g, -, rfl⟩
    · exact hxy
    · rfl

theorem value?_finite (s : Bool) (m : Nat) (e : Int) :
    (finite s m e).value? = some (if s then -magnitude m e else magnitude m e) := by
  cases s <;> rfl

theorem value?_eq_of_sameNumber (h : sameNumber x y = true) : x.value? = y.value? := by
  rcases sameNumber_cases h with rfl | ⟨s, t, e, f, rfl, rfl⟩
  · rfl
  · simp [value?_finite, magnitude_zero]

def neg : Binary64 → Binary64
  | finite s m e => finite (!s) m e
  | infinite s => infinite (!s)
  | nan => nan

theorem Canonical.neg (h : x.Canonical) : x.neg.Canonical := by
  cases x <;> exact h

theorem Canonical.exponent_of_zero (h : (finite s 0 e).Canonical) : e = -1074 :=
  h.2.2.2.resolve_left (by decide)

theorem value?_neg (x : Binary64) : x.neg.value? = x.value?.map (-·) := by
  cases x with
  | finite s m e => cases s <;> simp [Binary64.neg, value?]
  | infinite | nan => rfl

namespace IsNearest

theorem eq_zero_of_nonpos (h : IsNearest q m e) (hq : q ≤ 0) : m = 0 ∧ e = -1074 := by
  have hzero : (zero false).Canonical := by decide
  have hle : |magnitude m e - q| ≤ |0 - q| :=
    h.le _ _ hzero (congrArg some (magnitude_zero _))
  have hm := magnitude_nonneg m e
  rw [abs_of_nonneg (by linarith), abs_of_nonneg (by linarith)] at hle
  apply h.canonical.eq_of_magnitude_eq hzero
  rw [magnitude_zero]
  linarith

theorem neg_of_zero (h : IsNearest q 0 e) : IsNearest (-q) 0 e where
  canonical := h.canonical
  le := by
    intro y v hy hv
    have hle := h.le y.neg (-v) hy.neg (by rw [value?_neg, hv]; rfl)
    rw [magnitude_zero, zero_sub, abs_neg] at hle ⊢
    rwa [abs_neg, sub_neg_eq_add, ← abs_neg (v + q), neg_add']
  even := fun _ _ _ _ _ _ => rfl

theorem eq_zero_of_neg (h : IsNearest q m e) (h' : IsNearest (-q) n f) : m = 0 ∧ n = 0 := by
  rcases le_total q 0 with hq | hq
  · obtain ⟨rfl, rfl⟩ := h.eq_zero_of_nonpos hq
    exact ⟨rfl, (h'.unique h.neg_of_zero).1⟩
  · obtain ⟨rfl, rfl⟩ := h'.eq_zero_of_nonpos (neg_nonpos.2 hq)
    have hzero := h'.neg_of_zero
    rw [neg_neg] at hzero
    exact ⟨(h.unique hzero).1, rfl⟩

theorem of_magnitude_eq (hm : (finite s m e).Canonical) (h : magnitude m e = q) :
    IsNearest q m e where
  canonical := hm
  le := by
    intro y v _ _
    rw [h, sub_self, abs_zero]
    exact abs_nonneg _
  even := by
    intro y v _ _ hne heq
    rw [h, sub_self, abs_zero, abs_eq_zero, sub_eq_zero] at heq
    exact absurd (heq.trans h.symm) hne

end IsNearest

/-- The number that `q` is rounded to; a zero counts with either sign. -/
def NearestTo (q : ℚ) : Binary64 → Prop
  | finite false m e => IsNearest q m e
  | finite true m e => IsNearest (-q) m e
  | infinite _ | nan => False

theorem nearestTo_of_value? (hx : x.Canonical) (h : x.value? = some q) : NearestTo q x := by
  cases x with
  | finite s m e =>
    rw [value?_finite, Option.some_inj] at h
    cases s with
    | false => exact IsNearest.of_magnitude_eq hx h
    | true => exact IsNearest.of_magnitude_eq hx (neg_eq_iff_eq_neg.1 h)
  | infinite | nan => simp [value?] at h

theorem nearestTo_zero_iff : NearestTo q (finite s 0 e) ↔ IsNearest q 0 e := by
  cases s with
  | false => exact Iff.rfl
  | true =>
    constructor
    · intro h
      have hneg : IsNearest (- -q) 0 e := IsNearest.neg_of_zero h
      rwa [neg_neg] at hneg
    · exact IsNearest.neg_of_zero

namespace NearestTo

theorem canonical (h : NearestTo q x) : x.Canonical := by
  cases x with
  | finite s m e => cases s <;> exact IsNearest.canonical h
  | infinite | nan => exact h.elim

theorem neg (h : NearestTo q x) : NearestTo (-q) x.neg := by
  cases x with
  | finite s m e =>
    cases s with
    | false =>
      have hm : IsNearest (- -q) m e := by
        rw [neg_neg]
        exact h
      exact hm
    | true => exact h
  | infinite | nan => exact h.elim

theorem sameNumber (hx : NearestTo q x) (hy : NearestTo q y) : sameNumber x y = true := by
  cases x with
  | finite s m e =>
    cases y with
    | finite t n f =>
      cases s <;> cases t
      · obtain ⟨rfl, rfl⟩ := IsNearest.unique hx hy
        simp [Binary64.sameNumber]
      · obtain ⟨rfl, rfl⟩ := IsNearest.eq_zero_of_neg hx hy
        rfl
      · obtain ⟨rfl, rfl⟩ := IsNearest.eq_zero_of_neg hy hx
        rfl
      · obtain ⟨rfl, rfl⟩ := IsNearest.unique hx hy
        simp [Binary64.sameNumber]
    | infinite | nan => exact hy.elim
  | infinite | nan => exact hx.elim

theorem of_sameNumber (hy : NearestTo q y) (hx : x.Canonical) (h : Binary64.sameNumber x y = true) :
    NearestTo q x := by
  rcases sameNumber_cases h with rfl | ⟨s, t, e, f, rfl, rfl⟩
  · exact hy
  · obtain rfl : e = -1074 := hx.exponent_of_zero
    obtain rfl : f = -1074 := hy.canonical.exponent_of_zero
    exact nearestTo_zero_iff.2 (nearestTo_zero_iff.1 hy)

theorem value?_eq (h : NearestTo q x) (hy : y.Canonical) (hv : y.value? = some q) :
    x.value? = some q :=
  (value?_eq_of_sameNumber (h.sameNumber (nearestTo_of_value? hy hv))).trans hv

end NearestTo

section

variable {num den : Nat}

theorem ofGrid_true (m : Nat) (e : Int) : ofGrid true m e = (ofGrid false m e).neg := by
  rw [ofGrid, ofGrid]
  split
  split
  · rfl
  · rfl

theorem ofRatio_true (num den : Nat) : ofRatio true num den = (ofRatio false num den).neg := by
  rw [ofRatio, ofRatio]
  split
  · rfl
  · exact ofGrid_true _ _

theorem nearestTo_ofRatio (hd : 0 < den) (h : (num : ℚ) / den < overflow) :
    NearestTo (num / den) (ofRatio false num den) := by
  have hrounds : Rounds (num / den) (ofRatio false num den) := rounds_ofRatio hd
  generalize ofRatio false num den = x at hrounds
  cases hrounds with
  | finite _ hnearest => exact hnearest
  | infinite hle => exact absurd hle h.not_ge

end

theorem cast_of_nonneg {n : Int} (hn : 0 ≤ n) : (n : ℚ) = n.natAbs := by
  rw [Nat.cast_natAbs, abs_of_nonneg hn]

theorem cast_of_neg {n : Int} (hn : n < 0) : (n : ℚ) = -(n.natAbs : ℚ) := by
  rw [Nat.cast_natAbs, abs_of_neg hn, Int.cast_neg, neg_neg]

theorem magnitude_natCast (m k : Nat) : magnitude m k = (m * 2 ^ k : Nat) := by
  rw [magnitude, zpow_natCast]
  push_cast
  rfl

theorem lt_overflow {n : Nat} (h : n < 2 ^ 64) : (n : ℚ) < overflow :=
  calc
    (n : ℚ) < magnitude (2 ^ 54 - 1) (11 : Nat) := by
      rw [magnitude_natCast, Nat.cast_lt]
      omega
    _ ≤ overflow := magnitude_mono (by decide) _

theorem nearestTo_ofInt {n : Int} (hn : n.natAbs < 2 ^ 64) : NearestTo n (ofInt n) := by
  have hone : (n.natAbs : ℚ) / (1 : Nat) = n.natAbs := by rw [Nat.cast_one, div_one]
  have hpos : NearestTo n.natAbs (ofRatio false n.natAbs 1) := by
    have hratio := nearestTo_ofRatio Nat.one_pos (hone.trans_lt (lt_overflow hn))
    rwa [hone] at hratio
  rw [ofInt]
  rcases le_or_gt 0 n with hsign | hsign
  · rw [decide_eq_false hsign.not_gt, cast_of_nonneg hsign]
    exact hpos
  · rw [decide_eq_true hsign, ofRatio_true, cast_of_neg hsign]
    exact hpos.neg

def FitsSignificand (n : Nat) : Prop := ∃ m k : Nat, m < significandEnd ∧ n = m * 2 ^ k

theorem exists_canonical (s : Bool) {k : Nat} {m : Nat} (hm : m < significandEnd)
    (hk : (k : Int) - 1074 ≤ 971) :
    ∃ m' e, (finite s m' e).Canonical ∧ magnitude m' e = magnitude m (k - 1074) := by
  induction k generalizing m with
  | zero => exact ⟨m, -1074, ⟨hm, le_rfl, by decide, Or.inr rfl⟩, rfl⟩
  | succ k ih =>
    by_cases hfull : fullSignificand ≤ m
    · exact ⟨m, _, ⟨hm, by omega, hk, Or.inl hfull⟩, rfl⟩
    · have hdouble : 2 * m < significandEnd := by
        have hlt : m < 2 ^ 52 := not_le.1 hfull
        change 2 * m < 2 ^ 53
        omega
      obtain ⟨m', e, hcanonical, hmagnitude⟩ := ih hdouble (by omega)
      have hlower : ((k + 1 : Nat) : Int) - 1074 - 1 = k - 1074 := by omega
      refine ⟨m', e, hcanonical, ?_⟩
      rw [hmagnitude, ← magnitude_double m, hlower]

theorem fitsSignificand_of_magnitude_eq {n : Nat} (h : (finite s m e).Canonical)
    (hn : magnitude m e = n) : FitsSignificand n := by
  rcases le_or_gt 0 e with he | he
  · obtain ⟨k, rfl⟩ := Int.eq_ofNat_of_zero_le he
    rw [magnitude_natCast] at hn
    exact ⟨m, k, h.1, by exact_mod_cast hn.symm⟩
  ·
    have hle : magnitude m e ≤ magnitude m 0 := magnitude_mono he.le m
    rw [hn, magnitude, zpow_zero, mul_one, Nat.cast_le] at hle
    exact ⟨n, 0, hle.trans_lt h.1, by simp⟩

theorem exists_value?_eq_iff {n : Int} (hn : n.natAbs < 2 ^ 64) :
    (∃ x : Binary64, x.Canonical ∧ x.value? = some (n : ℚ)) ↔ FitsSignificand n.natAbs := by
  constructor
  · rintro ⟨x, hx, hv⟩
    cases x with
    | finite s m e =>
      have habs : magnitude m e = n.natAbs := by
        rw [value?_finite, Option.some_inj] at hv
        rw [Nat.cast_natAbs, Int.cast_abs, ← hv]
        cases s <;> simp [abs_of_nonneg (magnitude_nonneg m e)]
      exact fitsSignificand_of_magnitude_eq hx habs
    | infinite | nan => simp [value?] at hv
  · rintro ⟨m, k, hm, hmk⟩
    rcases Nat.eq_zero_or_pos m with rfl | hpos
    · obtain rfl : n = 0 := by simpa using hmk
      exact ⟨zero false, by decide, by simp [zero, value?_finite, magnitude_zero]⟩
    · have hk : k < 64 := by
        have hpow : 2 ^ k < 2 ^ 64 := (Nat.le_mul_of_pos_left _ hpos).trans_lt (hmk ▸ hn)
        exact (Nat.pow_lt_pow_iff_right (by decide)).1 hpow
      obtain ⟨m', e, hx, hmagnitude⟩ :=
        exists_canonical (decide (n < 0)) (k := k + 1074) hm (by omega)
      have hvalue : magnitude m' e = n.natAbs := by
        have hexponent : ((k + 1074 : Nat) : Int) - 1074 = k := by omega
        rw [hmagnitude, hexponent, magnitude_natCast, hmk]
      refine ⟨_, hx, ?_⟩
      rw [value?_finite, hvalue, Option.some_inj]
      rcases le_or_gt 0 n with hsign | hsign
      · rw [decide_eq_false hsign.not_gt]
        exact (cast_of_nonneg hsign).symm
      · rw [decide_eq_true hsign]
        exact (cast_of_neg hsign).symm

end DocumentClient.Binary64
