import DocumentClient.Query.Step

namespace DocumentClient

namespace Directives

theorem put_filter {f : Filter} {d : Directive} (h : d.kind ≠ .filter) (es : List Directive) :
    Keyed.put Directive.kind d (.filter f :: es) = .filter f :: Keyed.put Directive.kind d es :=
  if_neg (Ne.symm h)

theorem exists_entries (ds : Directives) : ∃ f rest, ds.entries = .filter f :: rest := by
  have h := ds.filter_first
  cases hs : ds.entries with
  | nil => simp [hs] at h
  | cons d rest =>
    cases d with
    | filter f => exact ⟨f, rest, rfl⟩
    | order | limit | offset | index | pluck => simp [hs, Directive.kind] at h

theorem filter_of_entries {ds : Directives} {f : Filter} {rest : List Directive}
    (h : ds.entries = .filter f :: rest) : ds.filter = f := by
  simp [filter, h]

theorem filter_set_filter (ds : Directives) (f : Filter) : (ds.set (.filter f)).filter = f := by
  obtain ⟨g, rest, h⟩ := ds.exists_entries
  have hset : (ds.set (.filter f)).entries = .filter f :: rest := by
    simp [h, Keyed.put, Directive.kind]
  exact filter_of_entries hset

theorem filter_set_of_ne {d : Directive} (hd : d.kind ≠ .filter) (ds : Directives) :
    (ds.set d).filter = ds.filter := by
  obtain ⟨g, rest, h⟩ := ds.exists_entries
  have hset : (ds.set d).entries = .filter g :: Keyed.put Directive.kind d rest := by
    rw [entries_set, h, put_filter hd]
  rw [filter_of_entries h, filter_of_entries hset]

theorem set_filter_self (ds : Directives) : ds.set (.filter ds.filter) = ds := by
  obtain ⟨f, rest, h⟩ := ds.exists_entries
  apply ext
  simp [filter_of_entries h, h, Keyed.put]

end Directives

namespace Query

theorem filters_set_filter (q : Query) (f : Filter) : (q.set (.filter f)).filters = f :=
  q.directives.filter_set_filter f

theorem filters_set_of_ne {d : Directive} (hd : d.kind ≠ .filter) (q : Query) :
    (q.set d).filters = q.filters :=
  Directives.filter_set_of_ne hd q.directives

theorem set_filters_self (q : Query) : q.set (.filter q.filters) = q := by
  rw [set, filters, Directives.set_filter_self]

theorem filter_of_toFilter {clause : Clause} {f : Filter} (h : clause.toFilter = .ok f)
    (q : Query) : q.filter clause = .ok (q.set (.filter (q.filters.merge f))) := by
  rw [filter, h]
  rfl

theorem apply_cases {q r : Query} {s : Step} (h : q.apply s = .ok r) :
    (∃ d, d.kind ≠ .filter ∧ r = q.set d) ∨
      (∃ clause f, s = .filter clause ∧ clause.toFilter = .ok f ∧
        r = q.set (.filter (q.filters.merge f))) ∨
      ∃ format, r = q.withOrderFormat format := by
  cases s with
  | limit n => exact Or.inl ⟨.limit n, by simp [Directive.kind], (Except.ok.inj h).symm⟩
  | offset n => exact Or.inl ⟨.offset n, by simp [Directive.kind], (Except.ok.inj h).symm⟩
  | order o => exact Or.inl ⟨.order o, by simp [Directive.kind], (Except.ok.inj h).symm⟩
  | select columns =>
    exact Or.inl ⟨.pluck columns, by simp [Directive.kind], (Except.ok.inj h).symm⟩
  | pluck column =>
    exact Or.inl ⟨.pluck [column], by simp [Directive.kind], (Except.ok.inj h).symm⟩
  | index field => exact Or.inl ⟨.index field, by simp [Directive.kind], (Except.ok.inj h).symm⟩
  | orderFormat format => exact Or.inr (Or.inr ⟨format, (Except.ok.inj h).symm⟩)
  | filter clause =>
    change q.filter clause = .ok r at h
    cases hc : clause.toFilter with
    | error e =>
      rw [filter, hc] at h
      cases h
    | ok f =>
      rw [filter_of_toFilter hc] at h
      exact Or.inr (Or.inl ⟨clause, f, rfl, hc, (Except.ok.inj h).symm⟩)

inductive Reachable : Query → Prop
  | new {schema : String} {q : Query} : Query.new schema = .ok q → Reachable q
  | step {q r : Query} (s : Step) : Reachable q → q.apply s = .ok r → Reachable r

theorem Reachable.filter {q r : Query} {clause : Clause} (hq : q.Reachable)
    (h : q.filter clause = .ok r) : r.Reachable :=
  hq.step (.filter clause) h

theorem filters_new {schema : String} {q : Query} (h : new schema = .ok q) :
    q.filters = .empty := by
  rw [new] at h
  split at h
  · cases h
    rfl
  · cases h

/-- What holds of the empty filter, and of what a clause adds to a filter of which it holds, holds
of the filter of every query that can be built. -/
theorem Reachable.filters_induction {P : Filter → Prop} {q : Query} (hq : q.Reachable)
    (empty : P .empty)
    (merge : ∀ (f g : Filter) (clause : Clause), clause.toFilter = .ok g → P f → P (f.merge g)) :
    P q.filters := by
  induction hq with
  | new h =>
    rw [filters_new h]
    exact empty
  | step s _ h ih =>
    rcases apply_cases h with ⟨d, hd, rfl⟩ | ⟨clause, f, -, hf, rfl⟩ | ⟨format, rfl⟩
    · rw [filters_set_of_ne hd]
      exact ih
    · rw [filters_set_filter]
      exact merge _ f clause hf ih
    · exact ih

end Query

end DocumentClient
