import DocumentClient.Proofs.Comparison.Grammar
import DocumentClient.Proofs.Literal
import DocumentClient.Query

namespace DocumentClient.Comparison

open Text

def clauseText (column : String) (op : Operator) (value : List Char) : String :=
  column ++ " " ++ op.surface ++ " " ++ String.ofList value

variable {column : String} {op : Operator} {v : Literal} {value : List Char}

theorem toList_clauseText :
    (clauseText column op value).toList =
      column.toList ++ ' ' :: (op.surface.toList ++ ' ' :: value) := by
  simp [clauseText]

theorem words_clauseText (hne : column ≠ "") (hcolumn : ∀ c ∈ column.toList, isBlank c = false)
    (hv : v.WrittenAs op value) :
    words (clauseText column op value).toList =
      column.toList :: (op.surfaceWords ++ [value]) := by
  have hblank : isBlank ' ' = true := rfl
  have hvalue : words (' ' :: value) = [value] := by
    rw [← words_of_forall hv.ne_nil hv.not_isBlank]
    simp [words, List.splitOnP_cons_eq_if_modifyHead, hblank]
  rw [toList_clauseText, words_append_cons (by simpa using hne) hcolumn hblank,
    words_append (startsBlank_cons.2 hblank), hvalue, Operator.surfaceWords]

theorem surface_infix_clauseText : op.surface.toList <:+: (clauseText column op value).toList :=
  ⟨column.toList ++ [' '], ' ' :: value, by simp [toList_clauseText]⟩

theorem parse_clauseText (hne : column ≠ "") (hcolumn : ∀ c ∈ column.toList, isBlank c = false)
    (hv : v.WrittenAs op value)
    (hlower : lowercase (clauseText column op value).toList = (clauseText column op value).toList)
    (hearlier : ∀ e ∈ op.before, ¬ e.surface.toList <:+: (clauseText column op value).toList) :
    parse (clauseText column op value) = .ok ⟨column, op, v⟩ := by
  rw [parse_eq_ok_iff, hlower]
  exact ⟨⟨surface_infix_clauseText, hearlier⟩, value, [], words_clauseText hne hcolumn hv,
    hv.coerce_eq.symm⟩

/-- Reading a written comparison gives the comparison back, and filtering by its text is filtering
by the literal itself. -/
theorem filter_clauseText (q : Query) (hne : column ≠ "")
    (hcolumn : ∀ c ∈ column.toList, isBlank c = false) (hv : v.WrittenAs op value)
    (hlower : lowercase (clauseText column op value).toList = (clauseText column op value).toList)
    (hearlier : ∀ e ∈ op.before, ¬ e.surface.toList <:+: (clauseText column op value).toList) :
    parse (clauseText column op value) = .ok ⟨column, op, v⟩ ∧
      (∃ f, (Clause.expression (clauseText column op value)).toFilter = .ok f ∧
        f.entries = [(column ++ op.suffix, v)]) ∧
      ∃ r, q.filter (.expression (clauseText column op value)) = .ok r ∧
        q.filter (.terms [(column ++ op.suffix, v)]) = .ok r := by
  have hparse := parse_clauseText hne hcolumn hv hlower hearlier
  have htext : (Clause.expression (clauseText column op value)).toFilter =
      .ok (Filter.empty.insert (column ++ op.suffix) v) := by
    rw [Clause.toFilter, hparse]
    rfl
  have hterms : (Clause.terms [(column ++ op.suffix, v)]).toFilter =
      .ok (Filter.empty.insert (column ++ op.suffix) v) := by
    simp [Clause.toFilter, hv.normalized_eq, Filter.ofList, Filter.insertAll]
  refine ⟨hparse, ⟨_, htext, rfl⟩, ?_⟩
  rw [Query.filter, Query.filter, htext, hterms]
  exact ⟨_, rfl, rfl⟩

theorem filter_clauseText_list :
    Literal.WrittenAs .notIn (.list [.int 7, .text "9223372036854775808", .text "a(b"])
        "(7,9223372036854775808,a(b)".toList ∧
      parse "rating not in (7,9223372036854775808,a(b)" =
        .ok ⟨"rating", .notIn, .list [.int 7, .text "9223372036854775808", .text "a(b"]⟩ ∧
      ∃ r, Query.filter { schema := "test" }
          (.expression "rating not in (7,9223372036854775808,a(b)") = .ok r ∧
        Query.filter { schema := "test" }
          (.terms [("rating__notin",
            .list [.int 7, .text "9223372036854775808", .text "a(b"])]) = .ok r := by
  have hv : Literal.WrittenAs .notIn (.list [.int 7, .text "9223372036854775808", .text "a(b"])
      "(7,9223372036854775808,a(b)".toList := by
    have hseven := @ListItem.WrittenAs.int 7 (by decide)
    have hlarge := @ListItem.WrittenAs.text "9223372036854775808" (by decide) (by simp [isBlank])
      ⟨by simp [Literal.isQuoteMark], by simp [Literal.isQuoteMark]⟩ fun _ => by decide +kernel
    have hparen := @ListItem.WrittenAs.text "a(b" (by decide) (by simp [isBlank])
      ⟨by simp [Literal.isQuoteMark], by simp [Literal.isQuoteMark]⟩ (by simp)
    exact .list rfl (.cons hseven (.cons hlarge (.cons hparen .nil)))
  have htext : clauseText "rating" .notIn "(7,9223372036854775808,a(b)".toList =
      "rating not in (7,9223372036854775808,a(b)" := by decide +kernel
  obtain ⟨hparse, -, hfilter⟩ := @filter_clauseText "rating" _ _ _ { schema := "test" } (by decide)
    (by simp [isBlank]) hv (by decide +kernel) (by decide +kernel)
  rw [htext] at hparse hfilter
  exact ⟨hv, hparse, hfilter⟩

end DocumentClient.Comparison
