import DocumentClient.Proofs.Comparison.Grammar
import DocumentClient.Proofs.Text.Search
import Mathlib.Data.List.Find

/-!
Clauses with the same words, set apart by other white space.  Only `not in` holds a blank, so it is
the one operator that a text can lose with its layout, and then the search goes on to `in`.
-/

namespace DocumentClient

open Text

namespace Operator

variable {s t : List Char}

def symbols : List Operator := [notEqual, atLeast, atMost, equal, greater, less]

/-- The words of `op` come right after the first word. -/
def Follows (op : Operator) (ws : List (List Char)) : Prop := op.surfaceWords <+: ws.tail

theorem surface_ne_nil (op : Operator) : op.surface.toList ≠ [] := by
  cases op <;> decide

theorem not_isBlank_surface {op : Operator} (h : op ≠ notIn) :
    ∀ c ∈ op.surface.toList, isBlank c = false := by
  cases op with
  | notIn => exact absurd rfl h
  | notEqual | atLeast | atMost | equal | greater | less | oneOf => simp [surface, isBlank]

theorem occurs_congr_words {op : Operator} (hop : op ≠ notIn) (h : words s = words t) :
    occurs op.surface.toList s = occurs op.surface.toList t := by
  rw [Bool.eq_iff_iff, occurs_iff, occurs_iff]
  exact infix_congr_words op.surface_ne_nil (not_isBlank_surface hop) h

theorem occurs_oneOf_of_notIn (h : occurs notIn.surface.toList s = true) :
    occurs oneOf.surface.toList s = true := by
  have hpart : oneOf.surface.toList <:+: notIn.surface.toList := ⟨"not ".toList, [], by decide⟩
  exact occurs_iff.2 (hpart.trans (occurs_iff.1 h))

theorem scan_eq (s : List Char) :
    scan s = (symbols.find? fun op => occurs op.surface.toList s).or
      (if occurs notIn.surface.toList s then some notIn
        else if occurs oneOf.surface.toList s then some oneOf else none) := by
  have horder : scanOrder = symbols ++ [notIn, oneOf] := rfl
  rw [scan, horder, List.find?_append, List.find?_cons, List.find?_singleton]
  cases occurs notIn.surface.toList s <;> rfl

/-- Over the same words a search settles on the same operator, or on `not in` for one layout and on
`in` for the other. -/
theorem scan_cases (h : words s = words t) :
    scan s = scan t ∨ scan s = some notIn ∧ scan t = some oneOf ∨
      scan s = some oneOf ∧ scan t = some notIn := by
  have hsymbols : symbols.find? (fun op => occurs op.surface.toList s) =
      symbols.find? fun op => occurs op.surface.toList t := by
    refine List.find?_congr fun op hop => occurs_congr_words ?_ h
    rintro rfl
    exact absurd hop (by decide)
  have hin : occurs oneOf.surface.toList s = occurs oneOf.surface.toList t :=
    occurs_congr_words (by decide) h
  -- With no symbol in either text, all depends on which of them shows `not in`.
  rw [scan_eq, scan_eq, hsymbols, hin]
  cases symbols.find? fun op => occurs op.surface.toList t with
  | some op => exact Or.inl rfl
  | none =>
    cases hs : occurs notIn.surface.toList s <;> cases ht : occurs notIn.surface.toList t
    · exact Or.inl rfl
    · simp [occurs_oneOf_of_notIn ht]
    · simp [hin ▸ occurs_oneOf_of_notIn hs]
    · exact Or.inl rfl

theorem scan_eq_iff (h : words s = words t) :
    scan s = scan t ↔ (notIn.FirstIn s ↔ notIn.FirstIn t) := by
  rw [← scan_eq_some_iff, ← scan_eq_some_iff]
  rcases scan_cases h with heq | ⟨hs, ht⟩ | ⟨hs, ht⟩
  · simp [heq]
  · simp [hs, ht]
  · simp [hs, ht]

theorem follows_split {op : Operator} {written : List (List Char)}
    (h : written.length = op.wordCount) (column : List Char) (rest : List (List Char)) :
    op.Follows (column :: (written ++ rest)) ↔ written = op.surfaceWords := by
  have htake : (written ++ rest).take op.surfaceWords.length = written :=
    List.take_left' h
  rw [Follows, List.tail_cons, List.prefix_iff_eq_take, htake, eq_comm]

theorem not_oneOf_follows {ws : List (List Char)} (h : notIn.Follows ws) : ¬ oneOf.Follows ws := by
  obtain ⟨rest, hrest⟩ := h
  rintro ⟨rest', hrest'⟩
  have hwords : notIn.surfaceWords ++ rest = oneOf.surfaceWords ++ rest' := hrest.trans hrest'.symm
  exact absurd (List.cons.inj hwords).1 (by decide)

end Operator

namespace Comparison

section

variable {clause clause' : String} {op : Operator} {ws : List (List Char)}

theorem exists_ofWords_of_follows (hlong : op.wordCount + 2 ≤ ws.length) (h : op.Follows ws)
    (clause : String) : ∃ c, ofWords clause op ws = .ok c := by
  obtain ⟨column, written, value, rest, hw, rfl⟩ := exists_split hlong
  rw [ofWords_split hw, if_pos ((Operator.follows_split hw column _).1 h)]
  exact ⟨_, rfl⟩

theorem ofWords_of_not_follows (hlong : op.wordCount + 2 ≤ ws.length) (h : ¬ op.Follows ws) :
    ofWords clause op ws = .error (.invalidOperator clause) := by
  obtain ⟨column, written, value, rest, hw, rfl⟩ := exists_split hlong
  rw [ofWords_split hw, if_neg fun heq => h ((Operator.follows_split hw column _).2 heq)]

theorem ofWords_code_congr (clause clause' : String) (op : Operator) (ws : List (List Char)) :
    (ofWords clause op ws).mapError Error.code = (ofWords clause' op ws).mapError Error.code := by
  by_cases hs : ws.length < op.wordCount + 2
  · rw [ofWords_short hs, ofWords_short hs]
    rfl
  · obtain ⟨column, written, value, rest, hw, rfl⟩ := exists_split (Nat.le_of_not_lt hs)
    rw [ofWords_split hw, ofWords_split hw]
    split <;> rfl

theorem wordCount_notIn : Operator.notIn.wordCount = 2 := by decide

theorem wordCount_oneOf : Operator.oneOf.wordCount = 1 := by decide

theorem ofWords_code_ne_of_three (h : ws.length = 3) :
    (ofWords clause .notIn ws).mapError Error.code ≠
      (ofWords clause' .oneOf ws).mapError Error.code := by
  rw [ofWords_short (by rw [wordCount_notIn]; omega)]
  have hlong : Operator.oneOf.wordCount + 2 ≤ ws.length := by rw [wordCount_oneOf]; omega
  by_cases hin : Operator.oneOf.Follows ws
  · obtain ⟨c, hc⟩ := exists_ofWords_of_follows hlong hin clause'
    rw [hc]
    simp [Except.mapError]
  · rw [ofWords_of_not_follows hlong hin]
    simp [Except.mapError, Error.code]

theorem ofWords_code_eq_iff_of_long (h : 3 < ws.length) :
    (ofWords clause .notIn ws).mapError Error.code =
        (ofWords clause' .oneOf ws).mapError Error.code ↔
      ¬ Operator.oneOf.Follows ws ∧ ¬ Operator.notIn.Follows ws := by
  have hlong : Operator.notIn.wordCount + 2 ≤ ws.length := by rw [wordCount_notIn]; omega
  have hlong' : Operator.oneOf.wordCount + 2 ≤ ws.length := by rw [wordCount_oneOf]; omega
  by_cases hin : Operator.oneOf.Follows ws
  · have hnot : ¬ Operator.notIn.Follows ws := fun h => Operator.not_oneOf_follows h hin
    obtain ⟨c, hc⟩ := exists_ofWords_of_follows hlong' hin clause'
    rw [ofWords_of_not_follows hlong hnot, hc]
    simp [Except.mapError, hin]
  · rw [ofWords_of_not_follows hlong' hin]
    by_cases hnot : Operator.notIn.Follows ws
    · obtain ⟨c, hc⟩ := exists_ofWords_of_follows hlong hnot clause
      rw [hc]
      simp [Except.mapError, hnot]
    · rw [ofWords_of_not_follows hlong hnot]
      simp [Except.mapError, Error.code, hin, hnot]

theorem ofWords_code_eq_iff :
    (ofWords clause .notIn ws).mapError Error.code =
        (ofWords clause' .oneOf ws).mapError Error.code ↔
      ws.length < 3 ∨
        3 < ws.length ∧ ¬ Operator.oneOf.Follows ws ∧ ¬ Operator.notIn.Follows ws := by
  rcases Nat.lt_trichotomy ws.length 3 with hlt | heq | hgt
  · rw [ofWords_short (by rw [wordCount_notIn]; omega),
      ofWords_short (by rw [wordCount_oneOf]; omega)]
    exact iff_of_true rfl (Or.inl hlt)
  · exact iff_of_false (ofWords_code_ne_of_three heq) (by omega)
  · rw [ofWords_code_eq_iff_of_long hgt]
    simp [hgt, Nat.not_lt.2 hgt.le]

theorem parse_code_eq_iff_of_scan
    (h : words (lowercase clause.toList) = words (lowercase clause'.toList))
    (hs : Operator.scan (lowercase clause.toList) = some .notIn)
    (hs' : Operator.scan (lowercase clause'.toList) = some .oneOf) :
    (parse clause).mapError Error.code = (parse clause').mapError Error.code ↔
      (words (lowercase clause.toList)).length < 3 ∨
        3 < (words (lowercase clause.toList)).length ∧
          ¬ Operator.oneOf.Follows (words (lowercase clause.toList)) ∧
          ¬ Operator.notIn.Follows (words (lowercase clause.toList)) := by
  rw [parse_of_firstIn (Operator.scan_eq_some_iff.1 hs),
    parse_of_firstIn (Operator.scan_eq_some_iff.1 hs'), ← h, ofWords_code_eq_iff]

/-- Two layouts of the same words are read alike if `not in` is what both are searched down to, or
neither.  Otherwise one is read for `not in` and one for `in`, and only a refusal of both is alike:
there are fewer than three words, or more than three and neither operator follows the column. -/
theorem parse_code_eq_iff_of_words
    (h : words (lowercase clause.toList) = words (lowercase clause'.toList)) :
    (parse clause).mapError Error.code = (parse clause').mapError Error.code ↔
      (Operator.notIn.FirstIn (lowercase clause.toList) ↔
        Operator.notIn.FirstIn (lowercase clause'.toList)) ∨
      (words (lowercase clause.toList)).length < 3 ∨
      3 < (words (lowercase clause.toList)).length ∧
        ¬ Operator.oneOf.Follows (words (lowercase clause.toList)) ∧
        ¬ Operator.notIn.Follows (words (lowercase clause.toList)) := by
  rw [← Operator.scan_eq_iff h]
  rcases Operator.scan_cases h with heq | ⟨hs, hs'⟩ | ⟨hs, hs'⟩
  · refine iff_of_true ?_ (Or.inl heq)
    rw [parse, parse, ← heq, ← h]
    cases Operator.scan (lowercase clause.toList) with
    | none => rfl
    | some op => exact ofWords_code_congr clause clause' op _
  · rw [or_iff_right (by simp [hs, hs']), parse_code_eq_iff_of_scan h hs hs']
  · rw [or_iff_right (by simp [hs, hs']), eq_comm, parse_code_eq_iff_of_scan h.symm hs' hs, h]

theorem parse_code_eq_iff_of_words_tabs :
    words (lowercase "Rating not in (1,2)".toList) =
        words (lowercase "\trating\n NOT IN\u2003(1,2) ".toList) ∧
      (parse "Rating not in (1,2)").mapError Error.code =
        (parse "\trating\n NOT IN\u2003(1,2) ").mapError Error.code := by
  have hwords : words (lowercase "Rating not in (1,2)".toList) =
      words (lowercase "\trating\n NOT IN\u2003(1,2) ".toList) := by decide +kernel
  refine ⟨hwords, (parse_code_eq_iff_of_words hwords).2 (Or.inl (iff_of_true ?_ ?_))⟩
  · exact ⟨by decide +kernel, by decide +kernel⟩
  · exact ⟨by decide +kernel, by decide +kernel⟩

theorem not_forall_parse_code_eq :
    ¬ ∀ clause clause' : String,
      words (lowercase clause.toList) = words (lowercase clause'.toList) →
        (parse clause).mapError Error.code = (parse clause').mapError Error.code := by
  intro hall
  have hwords : words (lowercase "rating not in (1,2)".toList) =
      words (lowercase "rating not  in (1,2)".toList) := by decide +kernel
  have hone : (parse "rating not in (1,2)").mapError Error.code =
      .ok ⟨"rating", .notIn, .list [.int 1, .int 2]⟩ := by decide +kernel
  have htwo : (parse "rating not  in (1,2)").mapError Error.code = .error "invalid_operator" := by
    decide +kernel
  have h := hall _ _ hwords
  rw [hone, htwo] at h
  cases h

end

end Comparison

end DocumentClient
