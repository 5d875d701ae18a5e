import DocumentClient.Proofs.Except
import DocumentClient.Proofs.Query.Refiltering

namespace DocumentClient

def Comparison.entry (c : Comparison) : String × Literal := (c.key, c.value)

theorem Clause.toFilter_expression {text : String} {c : Comparison}
    (h : Comparison.parse text = .ok c) :
    (expression text).toFilter = (terms [c.entry]).toFilter := by
  have hvalue : c.value.normalized = c.value := (Comparison.unquoted_of_parse h).normalized_eq
  simp only [toFilter, h, List.map_cons, List.map_nil, Comparison.entry, hvalue]
  rfl

namespace Query

theorem set_set_filter (q : Query) (f g : Filter) :
    (q.set (.filter f)).set (.filter g) = q.set (.filter g) := by
  have hput : (q.directives.set (.filter f)).set (.filter g) = q.directives.set (.filter g) := by
    apply Directives.ext
    simp only [Directives.entries_set]
    exact Keyed.put_put (x := Directive.filter f) (y := .filter g) rfl _
  rw [set, set, set, hput]

theorem filter_terms (q : Query) (pairs : List (String × Literal)) :
    q.filter (.terms pairs) =
      .ok (q.set (.filter
        (q.filters.merge (.ofList (pairs.map fun p => (p.1, p.2.normalized)))))) :=
  filter_of_toFilter rfl q

theorem filter_terms_nil (q : Query) : q.filter (.terms []) = .ok q :=
  (filter_terms q []).trans (congrArg Except.ok q.set_filters_self)

theorem filter_terms_append (q : Query) (xs ys : List (String × Literal)) :
    q.filter (.terms (xs ++ ys)) = (q.filter (.terms xs) >>= fun r => r.filter (.terms ys)) := by
  rw [filter_terms q xs]
  refine Eq.trans ?_ (filter_terms _ ys).symm
  rw [filter_terms, filters_set_filter, set_set_filter, List.map_append, Filter.ofList_append,
    Filter.merge_assoc]

theorem filter_expression {text : String} {c : Comparison} (h : Comparison.parse text = .ok c)
    (q : Query) : q.filter (.expression text) = q.filter (.terms [c.entry]) := by
  rw [filter, filter, Clause.toFilter_expression h]

theorem foldlM_filter_expression {texts : List String} {cs : List Comparison}
    (h : List.Forall₂ (fun text c => Comparison.parse text = .ok c) texts cs) (q : Query) :
    texts.foldlM (fun r text => r.filter (.expression text)) q =
      q.filter (.terms (cs.map Comparison.entry)) := by
  induction h generalizing q with
  | nil => exact (filter_terms_nil q).symm
  | @cons text c texts cs hc _ ih =>
    calc
      (text :: texts).foldlM (fun r text => r.filter (.expression text)) q =
          (q.filter (.terms [c.entry]) >>= fun r =>
            r.filter (.terms (cs.map Comparison.entry))) := by
        rw [List.foldlM_cons, filter_expression hc]
        exact bind_congr ih
      _ = q.filter (.terms ((c :: cs).map Comparison.entry)) :=
        (filter_terms_append q [c.entry] _).symm

/-- Filters are a monoid of idempotents under merging, and a query does not tell how the conditions
that it has gathered were divided among the calls. -/
theorem filter_splits :
    (∀ f g h : Filter, (f.merge g).merge h = f.merge (g.merge h)) ∧
      (∀ f : Filter, Filter.empty.merge f = f ∧ f.merge .empty = f ∧ f.merge f = f) ∧
      (∀ (q : Query) (xs ys : List (String × Literal)), ∃ r,
        (q.filter (.terms xs) >>= fun r => r.filter (.terms ys)) = .ok r ∧
          q.filter (.terms (xs ++ ys)) = .ok r ∧
          r = q.set (.filter
            (q.filters.merge (.ofList ((xs ++ ys).map fun p => (p.1, p.2.normalized)))))) ∧
      ∀ (q : Query) (texts : List String) (cs : List Comparison),
        texts.mapM Comparison.parse = .ok cs →
          ∃ r, texts.foldlM (fun r text => r.filter (.expression text)) q = .ok r ∧
            q.filter (.terms (cs.map Comparison.entry)) = .ok r := by
  refine ⟨Filter.merge_assoc, ?_, ?_, ?_⟩
  · intro f
    exact ⟨f.empty_merge, f.merge_empty, f.merge_self⟩
  · intro q xs ys
    rw [← filter_terms_append]
    exact ⟨_, filter_terms q _, filter_terms q _, rfl⟩
  · intro q texts cs h
    rw [foldlM_filter_expression (mapM_eq_ok_iff.1 h)]
    exact ⟨_, filter_terms q _, filter_terms q _⟩

theorem filter_splits_rating :
    ∃ q r : Query, new "test" = .ok q ∧
      ["Rating >= 4", "genre = 'horror'", "rating >= 5"].foldlM
        (fun r text => r.filter (.expression text)) q = .ok r ∧
      q.filter (.terms [("rating__gte", .int 4), ("genre", .text "horror"),
        ("rating__gte", .int 5)]) = .ok r ∧
      r.filters.entries = [("rating__gte", .int 5), ("genre", .text "horror")] := by
  have hparse : ["Rating >= 4", "genre = 'horror'", "rating >= 5"].mapM Comparison.parse =
      .ok [⟨"rating", .atLeast, .int 4⟩, ⟨"genre", .equal, .text "horror"⟩,
        ⟨"rating", .atLeast, .int 5⟩] := by rfl
  obtain ⟨-, -, -, hchain⟩ := filter_splits
  obtain ⟨r, hr, hterms⟩ := hchain { schema := "test" } _ _ hparse
  refine ⟨_, r, if_pos (by decide), hr, hterms, ?_⟩
  obtain rfl := Except.ok.inj ((filter_terms _ _).symm.trans hterms)
  decide +kernel

end Query

end DocumentClient
