import DocumentClient.Literal
import DocumentClient.Proofs.Binary64.Signed

namespace DocumentClient.Literal

open Binary64 (FitsSignificand)

variable {a b c : Literal} {m n : Int64} {x : Binary64}

theorem same_self_iff : a.same a = true ↔ a ≠ .float .nan := by
  cases a with
  | float x =>
    have hnan : x.sameNumber x = true ↔ x ≠ .nan := by
      refine ⟨?_, Binary64.sameNumber_self⟩
      rintro h rfl
      cases h
    simpa [same] using hnan
  | int | text | list => simp [same]

theorem same_comm (a b : Literal) : a.same b = b.same a := by
  cases a <;> cases b <;> simp [same, Binary64.sameNumber_comm, Bool.beq_comm]

theorem same_int_iff : (int m).same (.int n) = true ↔ m = n := by
  simp [same]

theorem same_trans (hab : a.same b = true) (hbc : b.same c = true)
    (h : ∀ m n x, a = .int m → b = .float x → c = .int n → m = n) : a.same c = true := by
  cases b with
  | int k =>
    cases a with
    | int m => exact same_int_iff.1 hab ▸ hbc
    | float x =>
      cases c with
      | int n => exact same_int_iff.1 hbc ▸ hab
      | float y => exact Binary64.sameNumber_trans hab hbc
      | text | list => cases hbc
    | text | list => cases hab
  | float y =>
    cases a with
    | int m =>
      cases c with
      | int n => exact same_int_iff.2 (h m n y rfl rfl rfl)
      | float z => exact Binary64.sameNumber_trans hab hbc
      | text | list => cases hbc
    | float x =>
      cases c with
      | int n => exact Binary64.sameNumber_trans hab hbc
      | float z => exact Binary64.sameNumber_trans hab hbc
      | text | list => cases hbc
    | text | list => cases hab
  | text s => cases a <;> cases c <;> simp_all [same]
  | list items => cases a <;> cases c <;> simp_all [same]

theorem natAbs_toInt_lt (n : Int64) : n.toInt.natAbs < 2 ^ 64 := by
  have hlow := n.le_toInt
  have hhigh := n.toInt_lt
  omega

theorem nearestTo_ofInt (n : Int64) : Binary64.NearestTo n.toInt (.ofInt n.toInt) :=
  Binary64.nearestTo_ofInt (natAbs_toInt_lt n)

theorem same_int_float_iff (hx : x.Canonical) :
    (int n).same (.float x) = true ↔ Binary64.NearestTo n.toInt x := by
  have hn := nearestTo_ofInt n
  constructor
  · intro h
    exact hn.of_sameNumber hx ((Binary64.sameNumber_comm _ _).trans h)
  · exact hn.sameNumber

theorem same_int_ofInt (n : Int64) : (int n).same (.float (.ofInt n.toInt)) = true :=
  (same_int_float_iff (nearestTo_ofInt n).canonical).2 (nearestTo_ofInt n)

theorem same_int_float_iff_value? (hn : FitsSignificand n.toInt.natAbs) (hx : x.Canonical) :
    (int n).same (.float x) = true ↔ x.value? = some (n.toInt : ℚ) := by
  obtain ⟨y, hy, hvalue⟩ := (Binary64.exists_value?_eq_iff (natAbs_toInt_lt n)).2 hn
  rw [same_int_float_iff hx]
  constructor
  · intro h
    exact h.value?_eq hy hvalue
  · exact Binary64.nearestTo_of_value? hx

theorem forall_same_int_float_iff :
    (∀ x : Binary64, x.Canonical →
        ((int n).same (.float x) = true ↔ x.value? = some (n.toInt : ℚ))) ↔
      FitsSignificand n.toInt.natAbs := by
  constructor
  · intro h
    have hn := (nearestTo_ofInt n).canonical
    exact (Binary64.exists_value?_eq_iff (natAbs_toInt_lt n)).1
      ⟨_, hn, (h _ hn).1 (same_int_ofInt n)⟩
  · intro hn x hx
    exact same_int_float_iff_value? hn hx

theorem eq_of_same_float (hm : FitsSignificand m.toInt.natAbs)
    (hn : FitsSignificand n.toInt.natAbs) (hmx : (int m).same (.float x) = true)
    (hnx : (float x).same (.int n) = true) : m = n := by
  have hcanonical := (nearestTo_ofInt n).canonical
  have hmn : (int m).same (.float (.ofInt n.toInt)) = true := Binary64.sameNumber_trans hmx hnx
  have hvalue := (same_int_float_iff_value? hm hcanonical).1 hmn
  rw [(same_int_float_iff_value? hn hcanonical).1 (same_int_ofInt n), Option.some_inj,
    Int.cast_inj] at hvalue
  exact (Int64.toInt_inj.1 hvalue).symm

/-- Equality is reflexive but for NaN and symmetric; a whole number equals what it is rounded to,
which is its own value just where it fits, and only numbers that do not fit break transitivity. -/
theorem same_laws (a b c : Literal) (n : Int64) :
    (a.same a = true ↔ a ≠ .float .nan) ∧
      a.same b = b.same a ∧
      (a.same b = true → b.same c = true →
        (a.same c = false ↔ ∃ m n x, a = .int m ∧ b = .float x ∧ c = .int n ∧ m ≠ n ∧
          ¬ (FitsSignificand m.toInt.natAbs ∧ FitsSignificand n.toInt.natAbs))) ∧
      (∀ x : Binary64, x.Canonical →
        ((int n).same (.float x) = true ↔ Binary64.NearestTo n.toInt x)) ∧
      ((∀ x : Binary64, x.Canonical →
          ((int n).same (.float x) = true ↔ x.value? = some (n.toInt : ℚ))) ↔
        FitsSignificand n.toInt.natAbs) := by
  refine ⟨same_self_iff, same_comm a b, ?_, fun x hx => same_int_float_iff hx,
    forall_same_int_float_iff⟩
  intro hab hbc
  constructor
  · intro hac
    by_contra hnone
    refine Bool.false_ne_true (hac.symm.trans (same_trans hab hbc ?_))
    rintro m n x rfl rfl rfl
    by_contra hne
    refine hnone ⟨m, n, x, rfl, rfl, rfl, hne, ?_⟩
    rintro ⟨hm, hn⟩
    exact hne (eq_of_same_float hm hn hab hbc)
  · rintro ⟨m, n, x, rfl, rfl, rfl, hne, -⟩
    exact Bool.eq_false_iff.2 (mt same_int_iff.1 hne)

theorem same_laws_large :
    ∃ x : Binary64, x.Canonical ∧
      (int 9007199254740993).same (.float x) = true ∧
      (float x).same (.int 9007199254740992) = true ∧
      (int 9007199254740993).same (.int 9007199254740992) = false ∧
      Binary64.NearestTo (9007199254740993 : Int64).toInt x ∧
      x.value? = some ((9007199254740992 : Int64).toInt : ℚ) ∧
      ¬ FitsSignificand (9007199254740993 : Int64).toInt.natAbs := by
  set x : Binary64 := .finite false (2 ^ 52) 1
  have hx : x.Canonical := by decide +kernel
  have hodd : (int 9007199254740993).same (.float x) = true := by decide +kernel
  have heven : (float x).same (.int 9007199254740992) = true := by decide +kernel
  have hne : (int 9007199254740993).same (.int 9007199254740992) = false := by decide
  obtain ⟨-, -, htrans, hnearest, -⟩ :=
    same_laws (.int 9007199254740993) (.float x) (.int 9007199254740992) 9007199254740993
  obtain ⟨m, n, y, hm, -, hn, -, hfits⟩ := (htrans hodd heven).1 hne
  cases hm
  cases hn
  have hpow : FitsSignificand (9007199254740992 : Int64).toInt.natAbs :=
    ⟨1, 53, by decide, by decide⟩
  obtain ⟨-, hcomm, -, -, hexact⟩ :=
    same_laws (.int 9007199254740992) (.float x) (.float x) 9007199254740992
  refine ⟨x, hx, hodd, heven, hne, (hnearest x hx).1 hodd, ?_, fun hlarge => hfits ⟨hlarge, hpow⟩⟩
  exact (hexact.2 hpow x hx).1 (hcomm.trans heven)

theorem not_forall_same_trans :
    (¬ ∀ a b c : Literal, a ≠ .float .nan → b ≠ .float .nan → c ≠ .float .nan →
        a.same b = true → b.same c = true → a.same c = true) ∧
      ¬ ∀ (n : Int64) (x : Binary64), x.Canonical → x.isFinite = true →
        ((int n).same (.float x) = true ↔ x.value? = some (n.toInt : ℚ)) := by
  set x : Binary64 := .finite false (2 ^ 52) 1 with hx
  have hsame : (int 9007199254740993).same (.float x) = true := by decide +kernel
  constructor
  · intro h
    have htrans := h (.int 9007199254740993) (.float x) (.int 9007199254740992) (by decide)
      (by decide +kernel) (by decide) hsame (by decide +kernel)
    exact absurd htrans (by decide)
  · intro h
    have hvalue := (h 9007199254740993 x (by decide +kernel) rfl).1 hsame
    have hint : (9007199254740993 : Int64).toInt = 9007199254740993 := by decide
    rw [hx, Binary64.value?_finite, hint] at hvalue
    norm_num [Binary64.magnitude] at hvalue

end DocumentClient.Literal
