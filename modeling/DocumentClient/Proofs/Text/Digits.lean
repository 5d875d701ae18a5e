import DocumentClient.Text.Blank
import DocumentClient.Text.Digits
import Mathlib.Algebra.Group.Nat.Defs

namespace DocumentClient.Text

theorem isBlank_of_isDigit {c : Char} (h : c.isDigit = true) : isBlank c = false := by
  have hcode : 48 ≤ c.toNat ∧ c.toNat ≤ 57 := Char.isDigit_iff_toNat.1 h
  simp [isBlank]
  omega

theorem ofDigits_natDigits (n : Nat) : ofDigits (natDigits n) = n :=
  Nat.ofDigitChars_ten_toDigits

theorem ofDigits_append (ds fs : List Char) :
    ofDigits (ds ++ fs) = 10 ^ fs.length * ofDigits ds + ofDigits fs := by
  calc
    ofDigits (ds ++ fs) = Nat.ofDigitChars 10 (ds ++ fs) 0 := rfl
    _ = Nat.ofDigitChars 10 fs (ofDigits ds) := Nat.ofDigitChars_append 0
    _ = 10 ^ fs.length * ofDigits ds + ofDigits fs := Nat.ofDigitChars_eq_ofDigitChars_zero

def IsNumeral (s : List Char) : Prop := s ≠ [] ∧ ∀ c ∈ s, c.isDigit = true

instance (s : List Char) : Decidable (IsNumeral s) :=
  decidable_of_iff (s ≠ [] ∧ s.all Char.isDigit = true) (by simp [IsNumeral])

theorem wholeNumber?_eq_some_iff {s : List Char} {n : Nat} :
    wholeNumber? s = some n ↔ IsNumeral s ∧ ofDigits s = n := by
  simp [wholeNumber?, IsNumeral]

theorem isDigit_of_mem_natDigits {n : Nat} {c : Char} (h : c ∈ natDigits n) : c.isDigit = true :=
  Nat.isDigit_of_mem_toDigits (by decide) (by decide) h

theorem natDigits_ne_nil (n : Nat) : natDigits n ≠ [] := Nat.toDigits_ne_nil

theorem ofDigits_paddedDigits (width n : Nat) : ofDigits (paddedDigits width n) = n := by
  calc
    ofDigits (paddedDigits width n) =
        Nat.ofDigitChars 10
          (List.replicate (width - (natDigits n).length) '0' ++ natDigits n) 0 := rfl
    _ = Nat.ofDigitChars 10 (natDigits n) 0 := by
      rw [Nat.ofDigitChars_append, Nat.ofDigitChars_replicate_zero, Nat.mul_zero]
    _ = n := ofDigits_natDigits n

theorem isDigit_of_mem_paddedDigits {width n : Nat} {c : Char} (h : c ∈ paddedDigits width n) :
    c.isDigit = true := by
  rcases List.mem_append.1 h with h | h
  · rw [List.eq_of_mem_replicate h]
    rfl
  · exact isDigit_of_mem_natDigits h

theorem paddedDigits_ne_nil (width n : Nat) : paddedDigits width n ≠ [] := by
  simp [paddedDigits, natDigits_ne_nil]

theorem length_paddedDigits {width n : Nat} (hwidth : 0 < width) (h : n < 10 ^ width) :
    (paddedDigits width n).length = width := by
  have hlength : (natDigits n).length ≤ width := (Nat.length_toDigits_le_iff (by decide) hwidth).2 h
  rw [paddedDigits, List.length_append, List.length_replicate]
  omega

end DocumentClient.Text
