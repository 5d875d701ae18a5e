import DocumentClient.Proofs.Literal

namespace DocumentClient

open Text

namespace Literal

/-- Numbers are free, and so are lists with all that they hold. -/
def Unquoted : Literal → Prop
  | text s => Stripped isQuoteMark s.toList
  | _ => True

theorem unquoted_stripQuotes (s : List Char) : Unquoted (text (String.ofList (stripQuotes s))) := by
  simpa [Unquoted, stripQuotes] using stripped_strip isQuoteMark s

theorem unquoted_normalized (v : Literal) : v.normalized.Unquoted := by
  cases v with
  | text s => exact unquoted_stripQuotes s.toList
  | int | float | list => trivial

theorem Unquoted.normalized_eq {v : Literal} (h : v.Unquoted) : v.normalized = v := by
  cases v with
  | text s => rw [normalized, stripQuotes, h.strip_eq, String.ofList_toList]
  | int | float | list => rfl

theorem stripped_digits {s : List Char} (h : ∀ c ∈ s, c.isDigit = true) :
    Stripped isQuoteMark s :=
  stripped_of_forall fun c hc => (digit_plain (h c hc)).2.1

theorem Shape.eq_of_decimal {s ds fraction : List Char} (h : Shape.of s = .decimal ds fraction) :
    s = ds ++ '.' :: fraction ∧ (ds ≠ [] ∧ ∀ c ∈ ds, c.isDigit = true) ∧
      fraction ≠ [] ∧ ∀ c ∈ fraction, c.isDigit = true := by
  have hs : s.takeWhile Char.isDigit ++ s.dropWhile Char.isDigit = s :=
    List.takeWhile_append_dropWhile
  have hdigits : ∀ c ∈ s.takeWhile Char.isDigit, c.isDigit = true :=
    fun c hc => List.mem_takeWhile_imp hc
  rw [Shape.of, spanDigits] at h
  by_cases htake : s.takeWhile Char.isDigit = []
  · simp [htake] at h
  · cases hdrop : s.dropWhile Char.isDigit with
    | nil => simp [hdrop, htake] at h
    | cons c rest =>
      simp only [htake, hdrop, if_false] at h
      split at h
      · next heq => cases heq
      · next fraction' heq =>
        split at h
        · next hfraction =>
          cases heq
          cases h
          refine ⟨hdrop ▸ hs.symm, ⟨htake, hdigits⟩, hfraction.1, ?_⟩
          simpa using hfraction.2
        · cases h
      · cases h

theorem unquoted_floatOrText {raw : List Char} (h : Stripped isQuoteMark raw) (x : Binary64) :
    (floatOrText raw x).Unquoted := by
  rw [floatOrText]
  split
  · trivial
  · simpa [Unquoted] using h

theorem unquoted_coerce (raw : List Char) (op : Option Operator) : (coerce raw op).Unquoted := by
  rw [coerce]
  cases hshape : Shape.of raw with
  | whole digits =>
    obtain ⟨-, hraw⟩ := Shape.eq_of_whole hshape
    cases hn : int64? digits with
    | some n => simp [hn, Unquoted]
    | none => simpa [hn] using unquoted_floatOrText (stripped_digits hraw) _
  | decimal digits fraction =>
    obtain ⟨rfl, ⟨hne, hdigits⟩, hfne, hfraction⟩ := Shape.eq_of_decimal hshape
    have hends : Stripped isQuoteMark (digits ++ ['.'] ++ fraction) :=
      (stripped_digits hdigits).append (stripped_digits hfraction) hne hfne ['.']
    exact unquoted_floatOrText (by simpa using hends) _
  | other =>
    by_cases hop : op.any Operator.takesList = true
    · simp [hop, Unquoted]
    · simpa [hop] using unquoted_stripQuotes raw

end Literal

end DocumentClient
