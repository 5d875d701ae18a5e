import DocumentClient.Literal
import DocumentClient.Proofs.Text
import DocumentClient.Proofs.Text.Digits
import Mathlib.Data.List.Forall2
import Mathlib.Data.List.TakeWhile

namespace DocumentClient

open Text

namespace Literal

theorem digit_plain {c : Char} (h : c.isDigit = true) :
    isBlank c = false ∧ isQuoteMark c = false ∧ c ≠ ',' := by
  have hne : ∀ d : Char, d.isDigit = false → c ≠ d := by
    rintro d hd rfl
    simp [h] at hd
  refine ⟨isBlank_of_isDigit h, ?_, hne ',' rfl⟩
  simp [isQuoteMark, hne]

theorem Shape.of_digits {s : List Char} (hne : s ≠ []) (h : ∀ c ∈ s, c.isDigit = true) :
    Shape.of s = .whole s := by
  have htake : s.takeWhile Char.isDigit = s := List.takeWhile_eq_self_iff.2 h
  have hdrop : s.dropWhile Char.isDigit = [] := List.dropWhile_eq_nil_iff.2 h
  simp [Shape.of, spanDigits, htake, hdrop, hne]

theorem Shape.of_not_digit {c : Char} (h : c.isDigit = false) (s : List Char) :
    Shape.of (c :: s) = .other := by
  simp [Shape.of, spanDigits, h]

theorem Shape.eq_of_whole {s ds : List Char} (h : Shape.of s = .whole ds) :
    ds = s ∧ ∀ c ∈ s, c.isDigit = true := by
  have hs : s.takeWhile Char.isDigit ++ s.dropWhile Char.isDigit = s :=
    List.takeWhile_append_dropWhile
  rw [Shape.of, spanDigits] at h
  by_cases htake : s.takeWhile Char.isDigit = []
  · simp [htake] at h
  · cases hdrop : s.dropWhile Char.isDigit with
    | nil =>
      rw [hdrop, List.append_nil] at hs
      simp only [hdrop, if_neg htake] at h
      cases h
      exact ⟨hs, List.takeWhile_eq_self_iff.1 hs⟩
    | cons c rest =>
      simp only [htake, hdrop, if_false] at h
      split at h
      · next heq => cases heq
      · split at h <;> cases h
      · cases h

theorem Shape.of_natDigits (n : Nat) : Shape.of (natDigits n) = .whole (natDigits n) :=
  Shape.of_digits (natDigits_ne_nil n) fun _ => isDigit_of_mem_natDigits

theorem int64?_natDigits {n : Nat} (h : n < Nat.pow 2 63) :
    int64? (natDigits n) = some (Int64.ofNat n) := by
  rw [int64?, ofDigits_natDigits]
  exact if_pos h

theorem coerce_natDigits {n : Nat} (h : n < Nat.pow 2 63) (op : Option Operator) :
    coerce (natDigits n) op = .int (Int64.ofNat n) := by
  rw [coerce, Shape.of_natDigits]
  simp only [int64?_natDigits h]

end Literal

/-- How a list shows an item: a number, or text without quotes that reads as no number. -/
inductive ListItem.WrittenAs : ListItem → List Char → Prop
  | int {n : Nat} (h : n < Nat.pow 2 63) : WrittenAs (.int (Int64.ofNat n)) (natDigits n)
  | text {s : String} (hne : s ≠ "") (hplain : ∀ c ∈ s.toList, isBlank c = false ∧ c ≠ ',')
      (hends : Stripped Literal.isQuoteMark s.toList)
      (hlarge : (∀ c ∈ s.toList, c.isDigit = true) → Nat.pow 2 63 ≤ ofDigits s.toList) :
      WrittenAs (.text s) s.toList

namespace ListItem.WrittenAs

variable {item : ListItem} {s : List Char}

theorem ne_nil (h : item.WrittenAs s) : s ≠ [] := by
  cases h with
  | int h => exact natDigits_ne_nil _
  | text hne => simpa using hne

theorem plain (h : item.WrittenAs s) : ∀ c ∈ s, isBlank c = false ∧ c ≠ ',' := by
  cases h with
  | int h =>
    intro c hc
    obtain ⟨hblank, -, hcomma⟩ := Literal.digit_plain (isDigit_of_mem_natDigits hc)
    exact ⟨hblank, hcomma⟩
  | text _ hplain => exact hplain

theorem stripped (h : item.WrittenAs s) : Stripped Literal.isQuoteMark s := by
  cases h with
  | int h =>
    exact stripped_of_forall fun c hc => (Literal.digit_plain (isDigit_of_mem_natDigits hc)).2.1
  | text _ _ hends => exact hends

theorem trim_eq (h : item.WrittenAs s) : trim s = s :=
  (stripped_of_forall fun c hc => (h.plain c hc).1).strip_eq

theorem coerce_eq (h : item.WrittenAs s) : ListItem.coerce s = item := by
  have hs : Literal.stripQuotes (trim s) = s := by
    rw [h.trim_eq, Literal.stripQuotes, h.stripped.strip_eq]
  rw [ListItem.coerce, hs]
  cases h with
  | int h => simp only [Literal.Shape.of_natDigits, Literal.int64?_natDigits h]
  | @text s _ _ _ hlarge =>
    cases hshape : Literal.Shape.of s.toList with
    | whole ds =>
      obtain ⟨rfl, hd⟩ := Literal.Shape.eq_of_whole hshape
      have hnone : Literal.int64? s.toList = none :=
        if_neg (Nat.not_lt.2 (hlarge hd))
      simp [hnone]
    | decimal ds fraction => simp
    | other => simp

end ListItem.WrittenAs

inductive Literal.WrittenAs (op : Operator) : Literal → List Char → Prop
  | int {n : Nat} (h : n < Nat.pow 2 63) : WrittenAs op (.int (Int64.ofNat n)) (natDigits n)
  | text {s : String} (hop : op.takesList = false) (hword : ∀ c ∈ s.toList, isBlank c = false)
      (hends : Stripped isQuoteMark s.toList) :
      WrittenAs op (.text s) ('\x27' :: (s.toList ++ ['\x27']))
  | list {items : List ListItem} {texts : List (List Char)} (hop : op.takesList = true)
      (h : List.Forall₂ ListItem.WrittenAs items texts) :
      WrittenAs op (.list items) ('(' :: ([','].intercalate texts ++ [')']))

namespace Literal

section

variable {items : List ListItem} {texts : List (List Char)}

theorem exists_writtenAs (h : List.Forall₂ ListItem.WrittenAs items texts) {t : List Char}
    (ht : t ∈ texts) : ∃ item : ListItem, item.WrittenAs t := by
  induction h with
  | nil => simp at ht
  | @cons item u items texts hu _ ih =>
    rcases List.mem_cons.1 ht with rfl | ht
    · exact ⟨item, hu⟩
    · exact ih ht

theorem map_coerce_written (h : List.Forall₂ ListItem.WrittenAs items texts) :
    texts.map ListItem.coerce = items := by
  induction h with
  | nil => rfl
  | cons hitem _ ih => rw [List.map_cons, hitem.coerce_eq, ih]

theorem coerceList_written (h : List.Forall₂ ListItem.WrittenAs items texts) :
    coerceList ('(' :: ([','].intercalate texts ++ [')'])) = items := by
  have hstrip : stripQuotes ('(' :: ([','].intercalate texts ++ [')'])) =
      [','].intercalate texts := by
    refine (stripped_intercalate ',' fun t ht => ?_).strip_enclosed rfl rfl
    obtain ⟨item, hitem⟩ := exists_writtenAs h ht
    exact ⟨hitem.ne_nil, hitem.stripped⟩
  rw [coerceList, hstrip]
  by_cases hne : texts = []
  · subst hne
    cases h
    rfl
  · have hsplit : ([','].intercalate texts).splitOn ',' = texts := by
      refine List.splitOn_intercalate ',' (fun t ht hcomma => ?_) hne
      obtain ⟨item, hitem⟩ := exists_writtenAs h ht
      exact (hitem.plain ',' hcomma).2 rfl
    have hfilter : texts.filter (fun t => decide (trim t ≠ [])) = texts := by
      refine List.filter_eq_self.2 fun t ht => ?_
      obtain ⟨item, hitem⟩ := exists_writtenAs h ht
      simpa [hitem.trim_eq] using hitem.ne_nil
    rw [hsplit, hfilter, map_coerce_written h]

theorem not_isBlank_intercalate (h : List.Forall₂ ListItem.WrittenAs items texts) :
    ∀ c ∈ [','].intercalate texts, isBlank c = false := by
  intro c hc
  rcases of_mem_intercalate hc with rfl | ⟨t, ht, hc⟩
  · rfl
  · obtain ⟨item, hitem⟩ := exists_writtenAs h ht
    exact (hitem.plain c hc).1

end

namespace WrittenAs

variable {op : Operator} {v : Literal} {s : List Char}

theorem ne_nil (h : v.WrittenAs op s) : s ≠ [] := by
  cases h with
  | int h => exact natDigits_ne_nil _
  | text | list => simp

theorem not_isBlank (h : v.WrittenAs op s) : ∀ c ∈ s, isBlank c = false := by
  cases h with
  | int h => exact fun c hc => (digit_plain (isDigit_of_mem_natDigits hc)).1
  | text _ hword =>
    intro c hc
    simp only [List.mem_cons, List.mem_append, List.not_mem_nil, or_false] at hc
    rcases hc with rfl | hc | rfl
    · rfl
    · exact hword c hc
    · rfl
  | list _ h =>
    intro c hc
    simp only [List.mem_cons, List.mem_append, List.not_mem_nil, or_false] at hc
    rcases hc with rfl | hc | rfl
    · rfl
    · exact not_isBlank_intercalate h c hc
    · rfl

theorem coerce_eq (h : v.WrittenAs op s) : coerce s (some op) = v := by
  cases h with
  | int h => exact coerce_natDigits h _
  | text hop _ hends =>
    have hmark : isQuoteMark '\x27' = true := rfl
    rw [coerce, Shape.of_not_digit rfl, stripQuotes, hends.strip_enclosed hmark hmark]
    simp [hop]
  | list hop h =>
    rw [coerce, Shape.of_not_digit rfl]
    simp [hop, coerceList_written h]

theorem normalized_eq (h : v.WrittenAs op s) : v.normalized = v := by
  cases h with
  | int | list => rfl
  | text _ _ hends => rw [normalized, stripQuotes, hends.strip_eq, String.ofList_toList]

end WrittenAs

end Literal

end DocumentClient
