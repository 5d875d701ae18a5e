import DocumentClient.Proofs.Filter.History
import DocumentClient.Proofs.Query.Splitting

/-!
The keys that comparisons make.  No suffix is the end of another, so a key tells its column and its
operator, unless it is the text of a column that was given with a suffix of its own.
-/

namespace DocumentClient

namespace Operator

variable {c d : String} {o p : Operator}

theorem keyFor_equal (c : String) : keyFor .equal c = c := String.append_empty

theorem suffix_isSuffix_keyFor (o : Operator) (c : String) :
    o.suffix.toList <:+ (o.keyFor c).toList :=
  ⟨c.toList, String.toList_append.symm⟩

theorem eq_of_suffix_isSuffix (ho : o ≠ .equal) (hp : p ≠ .equal)
    (h : o.suffix.toList <:+ p.suffix.toList) : o = p := by
  revert ho hp h
  cases o <;> cases p <;> decide

theorem keyFor_inj (ho : o ≠ .equal) (hp : p ≠ .equal) (h : o.keyFor c = p.keyFor d) :
    c = d ∧ o = p := by
  have hop : o = p := by
    have ho' : o.suffix.toList <:+ (p.keyFor d).toList := h ▸ suffix_isSuffix_keyFor o c
    rcases List.suffix_or_suffix_of_suffix ho' (suffix_isSuffix_keyFor p d) with hs | hs
    · exact eq_of_suffix_isSuffix ho hp hs
    · exact (eq_of_suffix_isSuffix hp ho hs).symm
  subst hop
  exact ⟨(String.append_left_inj _).1 h, rfl⟩

theorem keyFor_eq_keyFor_iff :
    o.keyFor c = p.keyFor d ↔
      c = d ∧ o = p ∨
        o = .equal ∧ p ≠ .equal ∧ c = p.keyFor d ∨
        o ≠ .equal ∧ p = .equal ∧ d = o.keyFor c := by
  by_cases ho : o = .equal <;> by_cases hp : p = .equal
  · subst ho hp
    simp [keyFor_equal]
  · subst ho
    simp [keyFor_equal, hp, Ne.symm hp]
  · subst hp
    simp [keyFor_equal, ho, eq_comm]
  · constructor
    · exact fun h => Or.inl (keyFor_inj ho hp h)
    · rintro (⟨rfl, rfl⟩ | ⟨he, -⟩ | ⟨-, he, -⟩)
      · rfl
      · exact absurd he ho
      · exact absurd he hp

/-- A column that does not end as the key of an operator does. -/
def Unmarked (column : String) : Prop :=
  ∀ o : Operator, o ≠ .equal → ¬ o.suffix.toList <:+ column.toList

instance : DecidablePred Unmarked := fun column =>
  decidable_of_iff (∀ o ∈ scanOrder, o ≠ .equal → ¬ o.suffix.toList <:+ column.toList)
    (by simp [Unmarked, mem_scanOrder])

theorem Unmarked.ne_keyFor (hc : Unmarked c) (ho : o ≠ .equal) (d : String) :
    c ≠ o.keyFor d := by
  rintro rfl
  exact hc o ho (suffix_isSuffix_keyFor o d)

theorem Unmarked.keyFor_eq_iff (hc : Unmarked c) (hd : Unmarked d) :
    o.keyFor c = p.keyFor d ↔ c = d ∧ o = p := by
  rw [keyFor_eq_keyFor_iff]
  constructor
  · rintro (h | ⟨-, hp, h⟩ | ⟨ho, -, h⟩)
    · exact h
    · exact absurd h (hc.ne_keyFor hp d)
    · exact absurd h (hd.ne_keyFor ho c)
  · exact Or.inl

end Operator

namespace Comparison

structure Subject where
  column : String
  operator : Operator
  deriving DecidableEq

def Subject.key (s : Subject) : String := s.operator.keyFor s.column

def subject (c : Comparison) : Subject := ⟨c.column, c.operator⟩

theorem Subject.key_eq_iff {s t : Subject} (hs : Operator.Unmarked s.column)
    (ht : Operator.Unmarked t.column) : s.key = t.key ↔ s = t := by
  rw [key, key, hs.keyFor_eq_iff ht, Subject.mk.injEq]

theorem normalized_entries {texts : List String} {cs : List Comparison}
    (h : List.Forall₂ (fun text c => parse text = .ok c) texts cs) :
    (cs.map entry).map (fun p => (p.1, p.2.normalized)) = cs.map entry := by
  induction h with
  | nil => rfl
  | @cons text c texts cs hc _ ih =>
    have hentry : (c.entry.1, c.entry.2.normalized) = c.entry :=
      Prod.ext rfl (unquoted_of_parse hc).normalized_eq
    exact congrArg₂ List.cons hentry ih

end Comparison

namespace Filter

def ofComparisons (cs : List Comparison) : Filter :=
  cs.foldl (fun f c => f.merge c.toFilter) .empty

theorem ofComparisons_eq (cs : List Comparison) :
    ofComparisons cs = ofList (cs.map Comparison.entry) := by
  rw [ofList, insertAll, List.foldl_map]
  rfl

variable {cs : List Comparison}

open Comparison (Subject)

theorem entries_ofComparisons (h : ∀ c ∈ cs, Operator.Unmarked c.column) :
    (ofComparisons cs).entries = (Keyed.putAll Comparison.subject [] cs).map Comparison.entry := by
  have hkey : ∀ b c : Comparison, Operator.Unmarked b.column → Operator.Unmarked c.column →
      (b.entry.1 = c.entry.1 ↔ b.subject = c.subject) := by
    intro b c hb hc
    exact Subject.key_eq_iff (s := b.subject) (t := c.subject) hb hc
  have hnone : ∀ c ∈ ([] : List Comparison), Operator.Unmarked c.column := by simp
  rw [ofComparisons_eq, entries_ofList]
  exact Keyed.putAll_map hkey hnone h

theorem keys_ofComparisons (h : ∀ c ∈ cs, Operator.Unmarked c.column) :
    (ofComparisons cs).keys = (cs.map Comparison.subject).eraseDups.map Subject.key := by
  rw [keys, entries_ofComparisons h, ← Keyed.map_putAll_empty, List.map_map, List.map_map]
  rfl

theorem get?_ofComparisons_eq_some_iff {s : Subject} {v : Literal}
    (h : ∀ c ∈ cs, Operator.Unmarked c.column) (hs : Operator.Unmarked s.column) :
    (ofComparisons cs).get? s.key = some v ↔
      ∃ before after, cs = before ++ ⟨s.column, s.operator, v⟩ :: after ∧
        s ∉ after.map Comparison.subject := by
  have hfind : Keyed.find? Prod.fst s.key (ofComparisons cs).entries =
      (Keyed.find? Comparison.subject s (Keyed.putAll Comparison.subject [] cs)).map
        Comparison.entry := by
    rw [entries_ofComparisons h]
    apply Keyed.find?_map
    intro c hc
    have hmem : c ∈ cs := (Keyed.of_mem_putAll hc).resolve_left (by simp)
    exact Subject.key_eq_iff (s := c.subject) (h c hmem) hs
  rw [get?, hfind, Option.map_map, Option.map_eq_some_iff]
  simp only [Keyed.find?_putAll_empty_eq_some_iff]
  constructor
  · rintro ⟨c, ⟨before, after, hcs, rfl, hafter⟩, rfl⟩
    exact ⟨before, after, hcs, hafter⟩
  · rintro ⟨before, after, hcs, hafter⟩
    exact ⟨_, ⟨before, after, hcs, rfl, hafter⟩, rfl⟩

theorem exists_foldlM_filter {schema : String} {q : Query} {texts : List String}
    (hq : Query.new schema = .ok q) (h : texts.mapM Comparison.parse = .ok cs) :
    ∃ r, texts.foldlM (fun r text => r.filter (.expression text)) q = .ok r ∧
      r.filters = ofComparisons cs := by
  have hparse := mapM_eq_ok_iff.1 h
  refine ⟨_, (Query.foldlM_filter_expression hparse q).trans (Query.filter_terms q _), ?_⟩
  rw [Query.filters_set_filter, Query.filters_new hq, empty_merge,
    Comparison.normalized_entries hparse, ofComparisons_eq]

/-- Keys are the same only for the same column and operator or where one column is the other key, so
comparisons of columns without a mark are kept apart, each under its key with its last value. -/
theorem keys_tell_subjects :
    (∀ (c d : String) (o p : Operator), o.keyFor c = p.keyFor d ↔
        c = d ∧ o = p ∨
          o = .equal ∧ p ≠ .equal ∧ c = p.keyFor d ∨
          o ≠ .equal ∧ p = .equal ∧ d = o.keyFor c) ∧
      (∀ cs : List Comparison, (∀ c ∈ cs, Operator.Unmarked c.column) →
        (ofComparisons cs).keys = (cs.map Comparison.subject).eraseDups.map Subject.key ∧
          (ofComparisons cs).size = (cs.map Comparison.subject).eraseDups.length ∧
          ∀ (s : Subject) (v : Literal), Operator.Unmarked s.column →
            ((ofComparisons cs).get? s.key = some v ↔
              ∃ before after, cs = before ++ ⟨s.column, s.operator, v⟩ :: after ∧
                s ∉ after.map Comparison.subject)) ∧
      ∀ (schema : String) (q : Query) (texts : List String) (cs : List Comparison),
        Query.new schema = .ok q → texts.mapM Comparison.parse = .ok cs →
          ∃ r, texts.foldlM (fun r text => r.filter (.expression text)) q = .ok r ∧
            r.filters = ofComparisons cs := by
  refine ⟨?_, ?_, ?_⟩
  · intro c d o p
    exact Operator.keyFor_eq_keyFor_iff
  · intro cs h
    have hkeys := keys_ofComparisons h
    have hsize : (ofComparisons cs).size = (ofComparisons cs).keys.length := by
      rw [keys, List.length_map, size]
    refine ⟨hkeys, ?_, fun s v hs => get?_ofComparisons_eq_some_iff h hs⟩
    rw [hsize, hkeys, List.length_map]
  · intro schema q texts cs hq h
    exact exists_foldlM_filter hq h

theorem keys_tell_subjects_rating :
    ∃ q r : Query, Query.new "test" = .ok q ∧
      ["rating_ not in (1,2)", "Rating__ > 4", "rating_ not in (7)", "rating__ = 5"].foldlM
        (fun r text => r.filter (.expression text)) q = .ok r ∧
      r.filters.keys = ["rating___notin", "rating____gt", "rating__"] ∧
      r.filters.get? "rating___notin" = some (.list [.int 7]) ∧
      Operator.keyFor .notIn "rating" = Operator.keyFor .equal "rating__notin" := by
  set cs : List Comparison := [⟨"rating_", .notIn, .list [.int 1, .int 2]⟩,
    ⟨"rating__", .greater, .int 4⟩, ⟨"rating_", .notIn, .list [.int 7]⟩,
    ⟨"rating__", .equal, .int 5⟩]
  obtain ⟨hcollide, hkept, hquery⟩ := keys_tell_subjects
  have hparse : ["rating_ not in (1,2)", "Rating__ > 4", "rating_ not in (7)", "rating__ = 5"].mapM
      Comparison.parse = .ok cs := by rfl
  have hunmarked : ∀ c ∈ cs, Operator.Unmarked c.column := by decide +kernel
  obtain ⟨hkeys, -, hvalue⟩ := hkept cs hunmarked
  obtain ⟨r, hr, hfilters⟩ := hquery "test" { schema := "test" } _ cs (if_pos (by decide)) hparse
  refine ⟨_, r, if_pos (by decide), hr, ?_, ?_, ?_⟩
  · rw [hfilters, hkeys]
    decide +kernel
  · rw [hfilters]
    refine (hvalue ⟨"rating_", .notIn⟩ _ (by decide)).2 ⟨cs.take 2, cs.drop 3, rfl, ?_⟩
    decide
  · exact (hcollide _ _ _ _).2 (by decide)

end Filter

end DocumentClient
