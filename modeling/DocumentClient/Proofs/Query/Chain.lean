import DocumentClient.Proofs.Filter
import DocumentClient.Proofs.Query.Reachable

/-!
What a chain of steps makes of a new query, read off the steps alone.  Directives stand in the order
in which their kinds were first set and hold what was set last; conditions are gathered.
-/

namespace DocumentClient

namespace Clause

def pairs? : Clause → Option (List (String × Literal))
  | expression text => (Comparison.parse text).toOption.map fun c => [(c.key, c.value)]
  | terms pairs => some (pairs.map fun p => (p.1, p.2.normalized))

theorem toFilter_of_pairs? {clause : Clause} {pairs : List (String × Literal)}
    (h : clause.pairs? = some pairs) : clause.toFilter = .ok (.ofList pairs) := by
  cases clause with
  | expression text =>
    cases hparse : Comparison.parse text with
    | error e =>
      rw [pairs?, hparse] at h
      cases h
    | ok c =>
      rw [pairs?, hparse] at h
      cases h
      rw [toFilter, hparse]
      rfl
  | terms => cases h; rfl

theorem exists_error_of_pairs? {clause : Clause} (h : clause.pairs? = none) :
    ∃ e, clause.toFilter = .error e := by
  cases clause with
  | expression text =>
    cases hparse : Comparison.parse text with
    | error e => exact ⟨e, by rw [toFilter, hparse]; rfl⟩
    | ok c =>
      rw [pairs?, hparse] at h
      cases h
  | terms => cases h

end Clause

namespace Query.Step

/-- The directive that a step sets outright; conditions are gathered and not set. -/
def directive? : Step → Option Directive
  | limit n => some (.limit n)
  | offset n => some (.offset n)
  | order o => some (.order o)
  | select columns => some (.pluck columns)
  | pluck column => some (.pluck [column])
  | index field => some (.index field)
  | filter _ | orderFormat _ => none

def conditions? : Step → Option (List (String × Literal))
  | filter clause => clause.pairs?
  | _ => none

def format? : Step → Option OrderFormat
  | orderFormat format => some format
  | _ => none

def kind? (s : Step) : Option Directive.Kind := s.directive?.map Directive.kind

theorem kind?_of_directive? {s : Step} {d : Directive} (h : s.directive? = some d) :
    s.kind? = some d.kind := by
  rw [kind?, h]
  rfl

theorem kind_ne_filter {s : Step} {d : Directive} (h : s.directive? = some d) :
    d.kind ≠ .filter := by
  cases s <;> cases h <;> simp [Directive.kind]

theorem conditions?_of_kind? {s : Step} {k : Directive.Kind} (h : s.kind? = some k) :
    s.conditions? = none := by
  cases s <;> first | rfl | cases h

theorem format?_of_kind? {s : Step} {k : Directive.Kind} (h : s.kind? = some k) :
    s.format? = none := by
  cases s <;> first | rfl | cases h

end Query.Step

namespace Query

def settings (steps : List Step) : List Directive := steps.filterMap Step.directive?

def gathered (steps : List Step) : List (String × Literal) :=
  (steps.filterMap Step.conditions?).flatten

def lastFormat (steps : List Step) : OrderFormat :=
  ((steps.filterMap Step.format?).getLast?).getD .pair

theorem settings_append_singleton (steps : List Step) (s : Step) :
    settings (steps ++ [s]) = settings steps ++ s.directive?.toList := by
  cases h : s.directive? <;> simp [settings, h]

theorem gathered_append_singleton (steps : List Step) (s : Step) :
    gathered (steps ++ [s]) = gathered steps ++ s.conditions?.getD [] := by
  cases h : s.conditions? <;> simp [gathered, h]

theorem lastFormat_append_singleton (steps : List Step) (s : Step) :
    lastFormat (steps ++ [s]) = s.format?.getD (lastFormat steps) := by
  cases h : s.format? <;> simp [lastFormat, h]

/-- A query as the steps taken so far determine it. -/
structure BuiltBy (schema : String) (steps : List Step) (q : Query) : Prop where
  schema_eq : q.schema = schema
  entries_eq : q.directives.entries =
    .filter (.ofList (gathered steps)) :: Keyed.putAll Directive.kind [] (settings steps)
  format_eq : q.orderFormat = lastFormat steps

namespace BuiltBy

variable {schema : String} {steps : List Step} {q r : Query}

theorem new (schema : String) : BuiltBy schema [] { schema } := ⟨rfl, rfl, rfl⟩

theorem unique (hq : BuiltBy schema steps q) (hr : BuiltBy schema steps r) : q = r := by
  have hs : q.schema = r.schema := hq.schema_eq.trans hr.schema_eq.symm
  have hd : q.directives = r.directives := Directives.ext (hq.entries_eq.trans hr.entries_eq.symm)
  have hf : q.orderFormat = r.orderFormat := hq.format_eq.trans hr.format_eq.symm
  cases q
  cases r
  simp_all

theorem filters_eq (h : BuiltBy schema steps q) : q.filters = .ofList (gathered steps) := by
  simp [filters, Directives.filter, h.entries_eq]

theorem set {s : Step} {d : Directive} (h : BuiltBy schema steps q) (hs : s.directive? = some d) :
    BuiltBy schema (steps ++ [s]) (q.set d) where
  schema_eq := h.schema_eq
  entries_eq := by
    rw [gathered_append_singleton, settings_append_singleton,
      Step.conditions?_of_kind? (Step.kind?_of_directive? hs), hs, Query.set,
      Directives.entries_set, h.entries_eq, Directives.put_filter (Step.kind_ne_filter hs)]
    simp
  format_eq := by
    rw [lastFormat_append_singleton, Step.format?_of_kind? (Step.kind?_of_directive? hs)]
    exact h.format_eq

theorem skip {s : Step} (h : BuiltBy schema steps q) (hd : s.directive? = none)
    (hc : s.conditions? = none) :
    BuiltBy schema (steps ++ [s]) (q.withOrderFormat (s.format?.getD q.orderFormat)) where
  schema_eq := h.schema_eq
  entries_eq := by
    rw [gathered_append_singleton, settings_append_singleton, hd, hc]
    simpa [withOrderFormat] using h.entries_eq
  format_eq := by
    rw [lastFormat_append_singleton, ← h.format_eq]
    rfl

theorem merge {s : Step} {pairs : List (String × Literal)} (h : BuiltBy schema steps q)
    (hd : s.directive? = none) (hc : s.conditions? = some pairs) (hf : s.format? = none) :
    BuiltBy schema (steps ++ [s]) (q.set (.filter (q.filters.merge (.ofList pairs)))) where
  schema_eq := h.schema_eq
  entries_eq := by
    rw [gathered_append_singleton, settings_append_singleton, hd, hc, h.filters_eq,
      ← Filter.ofList_append, Query.set, Directives.entries_set, h.entries_eq]
    simp [Keyed.put, Directive.kind]
  format_eq := by
    rw [lastFormat_append_singleton, hf]
    exact h.format_eq

theorem applyOrKeep (s : Step) (h : BuiltBy schema steps q) :
    BuiltBy schema (steps ++ [s]) (q.applyOrKeep s) := by
  cases s with
  | limit n => exact h.set rfl
  | offset n => exact h.set rfl
  | order o => exact h.set rfl
  | select columns => exact h.set rfl
  | pluck column => exact h.set rfl
  | index field => exact h.set rfl
  | orderFormat format => exact h.skip rfl rfl
  | filter clause =>
    cases hc : clause.pairs? with
    | none =>
      obtain ⟨e, he⟩ := Clause.exists_error_of_pairs? hc
      have hq : q.applyOrKeep (.filter clause) = q := by
        rw [Query.applyOrKeep, apply, Query.filter, he]
        rfl
      rw [hq]
      exact h.skip rfl hc
    | some pairs =>
      have hq : q.applyOrKeep (.filter clause) =
          q.set (.filter (q.filters.merge (.ofList pairs))) := by
        rw [Query.applyOrKeep, apply, filter_of_toFilter (Clause.toFilter_of_pairs? hc)]
        rfl
      rw [hq]
      exact h.merge rfl hc rfl

theorem chain {done : List Step} (steps : List Step) (h : BuiltBy schema done q) :
    BuiltBy schema (done ++ steps) (q.chain steps) := by
  -- Each step moves over to those done, which the invariant speaks of.
  induction steps generalizing done q with
  | nil => simpa using h
  | cons s steps ih => simpa using ih (h.applyOrKeep s)

theorem get?_eq (h : BuiltBy schema steps q) {k : Directive.Kind} (hk : k ≠ .filter) :
    q.get? k = (settings steps).findRev? (·.kind = k) := by
  have hf : ¬ (Directive.filter (.ofList (gathered steps))).kind = k := fun e => hk e.symm
  have hcons : Keyed.find? Directive.kind k q.directives.entries =
      Keyed.find? Directive.kind k (Keyed.putAll Directive.kind [] (settings steps)) := by
    simp [h.entries_eq, Keyed.find?, hf]
  rw [get?, Directives.get?, hcons, Keyed.find?_putAll]
  simp [Keyed.find?]

theorem kinds_eq (h : BuiltBy schema steps q) :
    q.directives.kinds = .filter :: ((settings steps).map Directive.kind).eraseDups := by
  rw [Directives.kinds, h.entries_eq, List.map_cons, Keyed.map_putAll_empty]
  rfl

theorem nodup_kinds (h : BuiltBy schema steps q) : q.directives.kinds.Nodup := by
  have hn : ((Keyed.putAll Directive.kind [] (settings steps)).map Directive.kind).Nodup :=
    Keyed.nodup_map_putAll (by simp) _
  rw [Keyed.map_putAll_empty] at hn
  rw [h.kinds_eq, List.nodup_cons]
  refine ⟨?_, hn⟩
  intro hmem
  obtain ⟨d, hd, hk⟩ := List.mem_map.1 (List.mem_eraseDups.1 hmem)
  obtain ⟨s, -, hs⟩ := List.mem_filterMap.1 hd
  exact Step.kind_ne_filter hs hk

end BuiltBy

/-- What is left of some steps when those that set directives of kind `k` are dropped. -/
def without (k : Directive.Kind) (steps : List Step) : List Step :=
  steps.filter (·.kind? ≠ some k)

theorem settings_without (k : Directive.Kind) (steps : List Step) :
    settings (without k steps) = (settings steps).filter (·.kind ≠ k) := by
  induction steps with
  | nil => rfl
  | cons s steps ih =>
    cases hs : s.directive? with
    | none => simp_all [settings, without, Step.kind?]
    | some d => by_cases hk : d.kind = k <;> simp_all [settings, without, Step.kind?]

theorem filterMap_without {β : Type} {f : Step → Option β} {k : Directive.Kind}
    (hf : ∀ s : Step, s.kind? = some k → f s = none) (steps : List Step) :
    (without k steps).filterMap f = steps.filterMap f := by
  induction steps with
  | nil => rfl
  | cons s steps ih =>
    by_cases hs : s.kind? = some k
    · have hw : without k (s :: steps) = without k steps := by simp [without, hs]
      rw [hw, ih, List.filterMap_cons_none (hf s hs)]
    · have hw : without k (s :: steps) = s :: without k steps := by simp [without, hs]
      rw [hw, List.filterMap_cons, List.filterMap_cons, ih]

theorem BuiltBy.overwrite {schema : String} {q : Query} {k : Directive.Kind} {s t : Step}
    {pre mid post : List Step} (hs : s.kind? = some k) (ht : t.kind? = some k)
    (h : BuiltBy schema (pre ++ s :: mid ++ t :: post) q) :
    BuiltBy schema (pre ++ t :: without k mid ++ post) q where
  schema_eq := h.schema_eq
  entries_eq := by
    have hg : gathered (pre ++ t :: without k mid ++ post) =
        gathered (pre ++ s :: mid ++ t :: post) := by
      simp [gathered, Step.conditions?_of_kind? hs, Step.conditions?_of_kind? ht,
        filterMap_without fun _ => Step.conditions?_of_kind?]
    obtain ⟨d, hd, hdk⟩ := Option.map_eq_some_iff.1 hs
    obtain ⟨e, he, hek⟩ := Option.map_eq_some_iff.1 ht
    have hl : settings (pre ++ s :: mid ++ t :: post) =
        settings pre ++ d :: settings mid ++ e :: settings post := by
      simp [settings, hd, he]
    have hr : settings (pre ++ t :: without k mid ++ post) =
        settings pre ++ e :: (settings mid).filter (·.kind ≠ e.kind) ++ settings post := by
      rw [hek, ← settings_without]
      simp [settings, he]
    rw [h.entries_eq, hg, hl, hr, Keyed.putAll_overwrite (hdk.trans hek.symm)]
  format_eq := by
    rw [h.format_eq]
    simp [lastFormat, Step.format?_of_kind? hs, Step.format?_of_kind? ht,
      filterMap_without fun _ => Step.format?_of_kind?]

/-- Every chain leads to a query in canonical form. -/
theorem chain_new_canonical {schema : String} (h : schemaValid schema = true)
    (steps : List Step) :
    ∃ (q₀ : Query) (f : Filter), new schema = .ok q₀ ∧
      f.entries = Keyed.lastOfEach Prod.fst (gathered steps) ∧
      (q₀.chain steps).filters = f ∧
      (q₀.chain steps).directives.entries =
        .filter f :: Keyed.lastOfEach Directive.kind (settings steps) ∧
      (q₀.chain steps).directives.kinds =
        .filter :: ((settings steps).map Directive.kind).eraseDups ∧
      (q₀.chain steps).directives.kinds.Nodup ∧
      (∀ k ≠ .filter, (q₀.chain steps).get? k = (settings steps).findRev? (·.kind = k)) ∧
      (q₀.chain steps).toJson =
        .obj [("schema", .str schema),
          ("query", .arr ((.filter f :: Keyed.lastOfEach Directive.kind (settings steps)).map
            fun d => .arr [.str d.kind.name, d.payload (lastFormat steps)]))] ∧
      ∀ k pre s mid t post, s.kind? = some k → t.kind? = some k →
        steps = pre ++ s :: mid ++ t :: post →
        q₀.chain steps = q₀.chain (pre ++ t :: without k mid ++ post) := by
  have hq : ∀ ss, BuiltBy schema ss (Query.chain { schema } ss) :=
    fun ss => (BuiltBy.new schema).chain ss
  have hentries := (hq steps).entries_eq
  rw [Keyed.putAll_empty] at hentries
  refine ⟨{ schema }, .ofList (gathered steps), if_pos h, ?_, (hq steps).filters_eq, hentries,
    (hq steps).kinds_eq, (hq steps).nodup_kinds, fun k hk => (hq steps).get?_eq hk, ?_, ?_⟩
  · rw [Filter.entries_ofList, Keyed.putAll_empty]
  · rw [toJson, (hq steps).schema_eq, Directives.toJson, hentries, (hq steps).format_eq]
    rfl
  · rintro k pre s mid t post hs ht rfl
    exact ((hq _).overwrite hs ht).unique (hq _)

theorem chain_new_canonical_rating :
    schemaValid "test" = true ∧
      ∃ q₀, new "test" = .ok q₀ ∧
        (q₀.chain [.limit (some 3), .filter (.expression "Rating >= 4"), .pluck "b",
          .filter (.expression "a"), .filter (.terms [("genre", .text "horror"),
          ("rating__gte", .int 5)]), .limit none, .select [], .limit (some 5)]).toJson =
          .obj [("schema", .str "test"), ("query", .arr [
            .arr [.str "filter", .obj [("rating__gte", .int 5), ("genre", .str "horror")]],
            .arr [.str "limit", .int 5],
            .arr [.str "pluck", .arr []]])] ∧
        q₀.chain [.limit (some 3), .index "foo", .limit none, .limit (some 5)] =
          q₀.chain [.limit (some 5), .index "foo"] := by
  have hs : schemaValid "test" = true := by decide
  obtain ⟨q₀, f, hq, hf, -, -, -, -, -, hjson, -⟩ := chain_new_canonical hs
    [.limit (some 3), .filter (.expression "Rating >= 4"), .pluck "b",
      .filter (.expression "a"), .filter (.terms [("genre", .text "horror"),
      ("rating__gte", .int 5)]), .limit none, .select [], .limit (some 5)]
  obtain ⟨q₁, -, hq₁, -, -, -, -, -, -, -, ho⟩ := chain_new_canonical hs
    [.limit (some 3), .index "foo", .limit none, .limit (some 5)]
  obtain rfl : q₀ = q₁ := Except.ok.inj (hq.symm.trans hq₁)
  have hentries : f.entries = [("rating__gte", .int 5), ("genre", .text "horror")] := by
    rw [hf]
    decide +kernel
  have hfilter : f.toJson = .obj [("rating__gte", .int 5), ("genre", .str "horror")] := by
    rw [Filter.toJson, hentries]
    rfl
  refine ⟨hs, q₀, hq, ?_, ho .limit [] _ [.index "foo", .limit none] _ [] rfl rfl rfl⟩
  rw [hjson, List.map_cons, Directive.payload, hfilter]
  rfl

end Query

end DocumentClient
