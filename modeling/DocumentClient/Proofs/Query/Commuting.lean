import DocumentClient.Proofs.Query.Chain

/-!
Steps that change places.  The filter has its place from the start and the format of the order is
kept apart from the directives, so the order of two steps shows only where both set a kind for the
first time.
-/

namespace DocumentClient

namespace Directives

variable {ds : Directives} {d e : Directive}

theorem filter_mem_kinds (ds : Directives) : .filter ∈ ds.kinds := by
  obtain ⟨f, rest, h⟩ := ds.exists_entries
  simp [kinds, h, Directive.kind]

theorem set_comm (hne : d.kind ≠ e.kind) (h : d.kind ∈ ds.kinds ∨ e.kind ∈ ds.kinds) :
    (ds.set d).set e = (ds.set e).set d := by
  apply ext
  simp only [entries_set]
  rcases h with hd | he
  · exact (Keyed.put_comm hne.symm hd).symm
  · exact Keyed.put_comm hne he

theorem entries_set_set (hne : d.kind ≠ e.kind) (hd : d.kind ∉ ds.kinds) (he : e.kind ∉ ds.kinds) :
    ((ds.set d).set e).entries = ds.entries ++ [d, e] := by
  have hlast : e.kind ∉ (ds.entries ++ [d]).map Directive.kind := by
    rw [List.map_append, List.mem_append, not_or]
    exact ⟨he, by simpa using hne.symm⟩
  rw [entries_set, entries_set, Keyed.put_of_not_mem hd, Keyed.put_of_not_mem hlast,
    List.append_assoc, List.singleton_append]

theorem set_comm_iff (hne : d.kind ≠ e.kind) :
    (ds.set d).set e = (ds.set e).set d ↔ d.kind ∈ ds.kinds ∨ e.kind ∈ ds.kinds := by
  constructor
  · intro heq
    by_contra hnew
    rw [not_or] at hnew
    have hentries := congrArg entries heq
    rw [entries_set_set hne hnew.1 hnew.2, entries_set_set hne.symm hnew.2 hnew.1] at hentries
    have hde : [d, e] = [e, d] := List.append_cancel_left hentries
    exact hne (congrArg Directive.kind (List.cons.inj hde).1)
  · exact set_comm hne

end Directives

namespace Query

def inTurn (q : Query) (s t : Step) : Except Error Query := q.apply s >>= fun r => r.apply t

variable {q r : Query} {s t : Step}

theorem inTurn_of_ok (h : q.apply s = .ok r) : q.inTurn s t = r.apply t := by
  rw [inTurn, h]
  rfl

theorem inTurn_of_error {e : Error} (h : q.apply s = .error e) : q.inTurn s t = .error e := by
  rw [inTurn, h]
  rfl

theorem apply_of_directive? {d : Directive} (h : s.directive? = some d) (q : Query) :
    q.apply s = .ok (q.set d) := by
  cases s <;> cases h <;> rfl

theorem apply_filter_of_error {clause : Clause} {e : Error} (h : clause.toFilter = .error e)
    (q : Query) : q.apply (.filter clause) = .error e := by
  rw [apply, filter, h]
  rfl

theorem apply_filter_of_toFilter {clause : Clause} {f : Filter} (h : clause.toFilter = .ok f)
    (q : Query) : q.apply (.filter clause) = .ok (q.set (.filter (q.filters.merge f))) :=
  filter_of_toFilter h q

theorem inTurn_of_directive? {d e : Directive} (hs : s.directive? = some d)
    (ht : t.directive? = some e) (q : Query) : q.inTurn s t = .ok ((q.set d).set e) := by
  rw [inTurn_of_ok (apply_of_directive? hs q), apply_of_directive? ht]

theorem set_set_comm_iff {d e : Directive} (hne : d.kind ≠ e.kind) (q : Query) :
    (q.set d).set e = (q.set e).set d ↔
      d.kind ∈ q.directives.kinds ∨ e.kind ∈ q.directives.kinds := by
  rw [← Directives.set_comm_iff hne]
  constructor
  · exact congrArg directives
  · intro h
    rw [set, set, set, set, h]

theorem inTurn_filter_directive {d : Directive} (hs : s.directive? = some d) (q : Query)
    (clause : Clause) : q.inTurn (.filter clause) s = q.inTurn s (.filter clause) := by
  have hd : d.kind ≠ .filter := Step.kind_ne_filter hs
  rw [inTurn_of_ok (apply_of_directive? hs q)]
  cases hc : clause.toFilter with
  | error e => rw [inTurn_of_error (apply_filter_of_error hc q), apply_filter_of_error hc]
  | ok f =>
    have hne : (Directive.filter (q.filters.merge f)).kind ≠ d.kind := hd.symm
    rw [inTurn_of_ok (apply_filter_of_toFilter hc q), apply_of_directive? hs,
      apply_filter_of_toFilter hc, filters_set_of_ne hd]
    exact congrArg Except.ok ((set_set_comm_iff hne q).2 (Or.inl q.directives.filter_mem_kinds))

theorem inTurn_filter_orderFormat (q : Query) (clause : Clause) (format : OrderFormat) :
    q.inTurn (.filter clause) (.orderFormat format) =
      q.inTurn (.orderFormat format) (.filter clause) := by
  cases hc : clause.toFilter with
  | error e =>
    rw [inTurn_of_error (apply_filter_of_error hc q)]
    exact (apply_filter_of_error hc _).symm
  | ok f =>
    rw [inTurn_of_ok (apply_filter_of_toFilter hc q)]
    exact (apply_filter_of_toFilter hc (q.withOrderFormat format)).symm

/-- A condition or a change of the format can come before any step of another sort or after it, and
two settings of different kinds change places just where one of the kinds is there already. -/
theorem inTurn_comm (q : Query) :
    (∀ (clause : Clause) (s : Step), (∀ c, s ≠ .filter c) →
        q.inTurn (.filter clause) s = q.inTurn s (.filter clause)) ∧
      (∀ (format : OrderFormat) (s : Step), (∀ f, s ≠ .orderFormat f) →
        q.inTurn (.orderFormat format) s = q.inTurn s (.orderFormat format)) ∧
      ∀ (s t : Step) (d e : Directive), s.directive? = some d → t.directive? = some e →
        d.kind ≠ e.kind →
          ∃ a b, q.inTurn s t = .ok a ∧ q.inTurn t s = .ok b ∧
            (a = b ↔ d.kind ∈ q.directives.kinds ∨ e.kind ∈ q.directives.kinds) ∧
            (a ≠ b →
              a.directives.entries = q.directives.entries ++ [d, e] ∧
                b.directives.entries = q.directives.entries ++ [e, d] ∧
                b = { a with directives := b.directives }) := by
  refine ⟨?_, ?_, ?_⟩
  · intro clause s hs
    cases s with
    | filter c => exact absurd rfl (hs c)
    | orderFormat format => exact inTurn_filter_orderFormat q clause format
    | limit | offset | order | select | pluck | index =>
      exact inTurn_filter_directive rfl q clause
  · intro format s hs
    cases s with
    | orderFormat f => exact absurd rfl (hs f)
    | filter clause => exact (inTurn_filter_orderFormat q clause format).symm
    | limit | offset | order | select | pluck | index => rfl
  · intro s t d e hs ht hne
    refine ⟨_, _, inTurn_of_directive? hs ht q, inTurn_of_directive? ht hs q,
      set_set_comm_iff hne q, fun hab => ?_⟩
    obtain ⟨hd, he⟩ := not_or.1 (mt (set_set_comm_iff hne q).2 hab)
    exact ⟨Directives.entries_set_set hne hd he, Directives.entries_set_set hne.symm he hd, rfl⟩

theorem inTurn_comm_limit :
    ∃ q a b : Query,
      q.directives.kinds = [.filter, .index] ∧
        q.inTurn (.filter (.expression "genre ~ 1")) (.limit none) =
          q.inTurn (.limit none) (.filter (.expression "genre ~ 1")) ∧
        q.inTurn (.orderFormat .clause) (.filter (.terms [("year", .int 1975)])) =
          q.inTurn (.filter (.terms [("year", .int 1975)])) (.orderFormat .clause) ∧
        q.inTurn (.limit (some 3)) (.index "year") = q.inTurn (.index "year") (.limit (some 3)) ∧
        q.inTurn (.limit (some 3)) (.pluck "id") = .ok a ∧
        q.inTurn (.pluck "id") (.limit (some 3)) = .ok b ∧
        a ≠ b ∧
        a.directives.kinds = [.filter, .index, .limit, .pluck] ∧
        b.directives.kinds = [.filter, .index, .pluck, .limit] := by
  set q : Query := Query.index { schema := "test" } "genre"
  have hkinds : q.directives.kinds = [.filter, .index] := rfl
  obtain ⟨hfilter, hformat, hset⟩ := q.inTurn_comm
  obtain ⟨a, b, ha, hb, hiff, hswap⟩ :=
    hset (.limit (some 3)) (.pluck "id") _ _ rfl rfl (by decide)
  obtain ⟨c, d, hc, hd, hsame, -⟩ :=
    hset (.limit (some 3)) (.index "year") _ _ rfl rfl (by decide)
  have hab : a ≠ b := fun h => absurd (hiff.1 h) (by decide)
  obtain ⟨hentries, hentries', -⟩ := hswap hab
  refine ⟨q, a, b, hkinds, hfilter _ _ (by simp), hformat _ _ (by simp), ?_, ha, hb, hab, ?_, ?_⟩
  · rw [hc, hd, hsame.2 (by decide)]
  · rw [Directives.kinds, hentries]
    rfl
  · rw [Directives.kinds, hentries']
    rfl

end Query

end DocumentClient
