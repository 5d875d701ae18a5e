import DocumentClient.Proofs.Comparison.Grammar
import DocumentClient.Proofs.Filter
import DocumentClient.Proofs.Literal.Unquoted
import DocumentClient.Proofs.Query.Reachable

namespace DocumentClient

namespace Filter

def Unquoted (f : Filter) : Prop := ∀ p ∈ f.entries, p.2.Unquoted

theorem unquoted_empty : empty.Unquoted := by
  intro p hp
  simp at hp

theorem Unquoted.insertAll {f : Filter} {pairs : List (String × Literal)} (hf : f.Unquoted)
    (h : ∀ p ∈ pairs, p.2.Unquoted) : (f.insertAll pairs).Unquoted := by
  intro p hp
  rw [entries_insertAll] at hp
  rcases Keyed.of_mem_putAll hp with hp | hp
  · exact hf p hp
  · exact h p hp

theorem Unquoted.merge {f g : Filter} (hf : f.Unquoted) (hg : g.Unquoted) :
    (f.merge g).Unquoted :=
  hf.insertAll hg

theorem Unquoted.toFilter_ofFilter {f : Filter} (h : f.Unquoted) :
    (Clause.ofFilter f).toFilter = .ok f := by
  have hvalue : ∀ p ∈ f.entries, (p.1, p.2.normalized) = p := by
    intro p hp
    rw [(h p hp).normalized_eq]
  rw [Clause.ofFilter, Clause.toFilter, List.map_congr_left hvalue, List.map_id', ofList_entries]

end Filter

theorem Comparison.unquoted_of_parse {text : String} {c : Comparison} (h : parse text = .ok c) :
    c.value.Unquoted := by
  obtain ⟨-, x, rest, -, hvalue⟩ := parse_eq_ok_iff.1 h
  rw [hvalue]
  exact Literal.unquoted_coerce x _

theorem Clause.unquoted_toFilter {clause : Clause} {f : Filter} (h : clause.toFilter = .ok f) :
    f.Unquoted := by
  cases clause with
  | expression text =>
    cases hparse : Comparison.parse text with
    | error e =>
      rw [toFilter, hparse] at h
      cases h
    | ok c =>
      rw [toFilter, hparse] at h
      cases h
      intro p hp
      obtain rfl := List.mem_singleton.1 hp
      exact Comparison.unquoted_of_parse hparse
  | terms pairs =>
    cases h
    apply Filter.unquoted_empty.insertAll
    intro p hp
    obtain ⟨q, -, rfl⟩ := List.mem_map.1 hp
    exact Literal.unquoted_normalized q.2

namespace Query

theorem Reachable.unquoted {q : Query} (h : q.Reachable) : q.filters.Unquoted :=
  h.filters_induction Filter.unquoted_empty fun _ _ _ hclause hf =>
    hf.merge (Clause.unquoted_toFilter hclause)

theorem Reachable.filter_ofFilter {b : Query} (hb : b.Reachable) (a : Query) :
    a.filter (.ofFilter b.filters) = .ok (a.set (.filter (a.filters.merge b.filters))) :=
  filter_of_toFilter hb.unquoted.toFilter_ofFilter a

theorem Reachable.refilter {a b : Query} (ha : a.Reachable) (hb : b.Reachable) :
    a.filters.Unquoted ∧
      a.filter (.ofFilter a.filters) = .ok a ∧
      ∃ r, a.filter (.ofFilter b.filters) = .ok r ∧
        r = a.set (.filter r.filters) ∧
        r.filters.entries =
          a.filters.entries.map (fun p => (p.1, (b.filters.get? p.1).getD p.2)) ++
            b.filters.entries.filter (fun p => p.1 ∉ a.filters.keys) := by
  refine ⟨ha.unquoted, ?_, _, hb.filter_ofFilter a, ?_, ?_⟩
  · rw [ha.filter_ofFilter, Filter.merge_self, set_filters_self]
  · rw [filters_set_filter]
  · rw [filters_set_filter, Filter.entries_merge]

theorem Reachable.refilter_genre :
    ∃ a b : Query, a.Reachable ∧ b.Reachable ∧
      a.filters.entries = [("genre", .text "horror"), ("year", .int 1975)] ∧
      b.filters.entries = [("rating__gte", .int 4), ("genre", .text "comedy")] ∧
      a.filter (.ofFilter a.filters) = .ok a ∧
      ∃ r, a.filter (.ofFilter b.filters) = .ok r ∧
        r.filters.entries =
          [("genre", .text "comedy"), ("year", .int 1975), ("rating__gte", .int 4)] := by
  have hnew : Reachable { schema := "test" } :=
    .new (if_pos (by decide : schemaValid "test" = true))
  have hhorror : (Clause.terms [("genre", .text "('horror')"), ("year", .int 1975)]).toFilter =
      .ok (.ofList [("genre", .text "horror"), ("year", .int 1975)]) :=
    congrArg Except.ok (by decide +kernel)
  have hrating : (Clause.expression "Rating >= 4").toFilter =
      .ok (.ofList [("rating__gte", .int 4)]) := by rfl
  have hcomedy : (Clause.terms [("genre", .text "comedy\"")]).toFilter =
      .ok (.ofList [("genre", .text "comedy")]) :=
    congrArg Except.ok (by decide +kernel)
  have ha := hnew.filter (filter_of_toFilter hhorror _)
  have hb := (hnew.filter (filter_of_toFilter hrating _)).filter (filter_of_toFilter hcomedy _)
  obtain ⟨-, hself, r, hr, -, hentries⟩ := ha.refilter hb
  refine ⟨_, _, ha, hb, by decide +kernel, by decide +kernel, hself, r, hr, ?_⟩
  rw [hentries]
  decide +kernel

end Query

end DocumentClient
