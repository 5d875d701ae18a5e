import DocumentClient.Order
import DocumentClient.Proofs.Text.Search

namespace DocumentClient

open Text

theorem Direction.not_isBlank_text (d : Direction) : ∀ c ∈ d.text.toList, isBlank c = false := by
  cases d <;> simp [text, isBlank]

namespace Order

variable {s t field direction : String} {o : Order}

theorem parse_congr (h : (words s.toList).take 2 = (words t.toList).take 2) :
    parse s = parse t := by
  rw [parse, parse]
  generalize words s.toList = ws at h
  generalize words t.toList = vs at h
  rcases ws with _ | ⟨f, _ | ⟨d, ws⟩⟩ <;> rcases vs with _ | ⟨g, _ | ⟨e, vs⟩⟩ <;> simp_all

theorem parse_pair (hfield : IsWord field.toList)
    (hdirection : ∀ c ∈ direction.toList, isBlank c = false) :
    parse (field ++ " " ++ direction) = ofPair field direction := by
  have hblank : isBlank ' ' = true := rfl
  have hwords : words (field ++ " " ++ direction).toList =
      field.toList :: words direction.toList := by
    rw [← hfield.words_append_cons hblank]
    simp
  rw [parse, hwords]
  by_cases hempty : direction = ""
  · subst hempty
    exact congrArg (Order.mk · .ascending) String.ofList_toList
  · have hword : IsWord direction.toList := ⟨by simpa using hempty, hdirection⟩
    rw [hword.words_eq]
    simp [ofPair]

theorem parse_clause (h : IsWord o.field.toList) : parse o.clause = o := by
  rw [clause, parse_pair h o.direction.not_isBlank_text, ofPair, Direction.ofText_text]

theorem isWord_field_parse {c : Char} (hmem : c ∈ s.toList) (hc : isBlank c = false) :
    IsWord (parse s).field.toList := by
  have hhead : (parse s).field.toList ∈ words s.toList := by
    rw [parse]
    rcases hwords : words s.toList with _ | ⟨f, _ | ⟨d, ws⟩⟩
    · exact absurd hwords (words_ne_nil hmem hc)
    · simp
    · simp
  exact isWord_of_mem_words hhead

/-- An order whose field is a word is read back from its clause, which is how an order from any
clause with a word in it is; a clause and a pair say the same, and further words say nothing. -/
theorem parse_forms :
    (∀ o : Order, IsWord o.field.toList →
        ∃ text, o.toJson .clause = .str text ∧ parse text = o) ∧
      (∀ s : String, (∃ c ∈ s.toList, isBlank c = false) →
        IsWord (parse s).field.toList ∧
          ∃ text, (parse s).toJson .clause = .str text ∧ parse text = parse s) ∧
      (∀ field direction : String, IsWord field.toList →
        (∀ c ∈ direction.toList, isBlank c = false) →
          parse (field ++ " " ++ direction) = ofPair field direction) ∧
      ∀ s t : String, (words s.toList).take 2 = (words t.toList).take 2 → parse s = parse t := by
  refine ⟨?_, ?_, ?_, ?_⟩
  · intro o ho
    exact ⟨o.clause, rfl, parse_clause ho⟩
  · rintro s ⟨c, hmem, hc⟩
    have hword := isWord_field_parse hmem hc
    exact ⟨hword, (parse s).clause, rfl, parse_clause hword⟩
  · intro field direction hfield hdirection
    exact parse_pair hfield hdirection
  · intro s t h
    exact parse_congr h

theorem parse_forms_desc :
    IsWord "desc".toList ∧
      (∃ text, toJson ⟨"desc", .descending⟩ .clause = .str text ∧
        parse text = ⟨"desc", .descending⟩) ∧
      IsWord (parse "\tdesc upward").field.toList ∧
      parse "desc DESCending" = ofPair "desc" "DESCending" ∧
      parse "desc " = ofPair "desc" "" ∧
      parse "desc asc nulls last" = parse " desc  asc" := by
  have hword : IsWord "desc".toList := ⟨by simp, by simp [isBlank]⟩
  obtain ⟨hwritten, hread, hpair, hrest⟩ := parse_forms
  refine ⟨hword, hwritten _ hword, ?_, ?_, ?_, ?_⟩
  · exact (hread "\tdesc upward" ⟨'d', by decide, by decide⟩).1
  · exact hpair "desc" "DESCending" hword (by simp [isBlank])
  · exact hpair "desc" "" hword (by simp [isBlank])
  · exact hrest _ _ (by decide +kernel)

end Order

end DocumentClient
