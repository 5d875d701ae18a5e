import DocumentClient.Proofs.Filter

namespace DocumentClient.Filter

/-- A filter with all that was written to make it, from the first pair to the last. -/
inductive WrittenBy : Filter → List (String × Literal) → Prop
  | empty : WrittenBy .empty []
  | insert {f : Filter} {ws : List (String × Literal)} (key : String) (value : Literal) :
      WrittenBy f ws → WrittenBy (f.insert key value) (ws ++ [(key, value)])
  | merge {f g : Filter} {ws zs : List (String × Literal)} :
      WrittenBy f ws → WrittenBy g zs → WrittenBy (f.merge g) (ws ++ g.entries)
  | ofList (pairs : List (String × Literal)) : WrittenBy (.ofList pairs) pairs

variable {f : Filter} {ws : List (String × Literal)}

theorem keys_ofList (pairs : List (String × Literal)) :
    (ofList pairs).keys = (pairs.map Prod.fst).eraseDups := by
  rw [keys, entries_ofList, Keyed.map_putAll_empty]

theorem get?_ofList_eq_some_iff {k : String} {v : Literal} :
    (ofList ws).get? k = some v ↔
      ∃ before after, ws = before ++ (k, v) :: after ∧ k ∉ after.map Prod.fst := by
  rw [get?, entries_ofList, Option.map_eq_some_iff]
  simp only [Keyed.find?_putAll_empty_eq_some_iff]
  constructor
  · rintro ⟨⟨l, w⟩, ⟨before, after, rfl, rfl, hafter⟩, rfl⟩
    exact ⟨before, after, rfl, hafter⟩
  · rintro ⟨before, after, rfl, hafter⟩
    exact ⟨(k, v), ⟨before, after, rfl, rfl, hafter⟩, rfl⟩

theorem get?_eq_none_iff {k : String} : f.get? k = none ↔ k ∉ f.keys := by
  rw [get?, Option.map_eq_none_iff, Keyed.find?_eq_none_iff, keys]

theorem contains_iff {k : String} : f.contains k = true ↔ k ∈ f.keys := by
  rw [contains, Option.isSome_iff_ne_none, ne_eq, get?_eq_none_iff, not_not]

theorem isEmpty_iff : f.isEmpty = true ↔ f.keys = [] := by
  rw [isEmpty, List.isEmpty_iff, keys, List.map_eq_nil_iff]

theorem entries_eq_filterMap (f : Filter) :
    f.entries = f.keys.filterMap fun k => (f.get? k).map (k, ·) := by
  have hfind : ∀ k, (f.get? k).map (k, ·) = Keyed.find? Prod.fst k f.entries := by
    intro k
    rw [get?]
    cases hp : Keyed.find? Prod.fst k f.entries with
    | none => rfl
    | some p => exact congrArg some (Prod.ext (Keyed.key_of_find?_eq_some hp).symm rfl)
  simp only [hfind]
  exact (Keyed.filterMap_find?_map f.distinct).symm

theorem insert_ofList (ws : List (String × Literal)) (key : String) (value : Literal) :
    (ofList ws).insert key value = ofList (ws ++ [(key, value)]) := by
  rw [ofList, ofList, insertAll_append]
  rfl

theorem ofList_merge (ws : List (String × Literal)) (g : Filter) :
    (ofList ws).merge g = ofList (ws ++ g.entries) := by
  rw [ofList_append, ofList_entries]

theorem WrittenBy.eq_ofList (h : f.WrittenBy ws) : f = .ofList ws := by
  induction h with
  | empty => rfl
  | insert key value _ ih => rw [ih, insert_ofList]
  | merge _ _ ih => rw [ih, ofList_merge]
  | ofList => rfl

theorem writtenBy_entries (f : Filter) : f.WrittenBy f.entries := by
  have h := WrittenBy.ofList f.entries
  rwa [ofList_entries] at h

theorem toJson_eq (f : Filter) :
    f.toJson = .obj (f.keys.filterMap fun k => (f.get? k).map fun v => (k, v.toJson)) := by
  rw [toJson, f.entries_eq_filterMap, List.map_filterMap]
  simp only [Option.map_map]
  rfl

/-- A filter is the ordered map of its history in each of its views. -/
theorem WrittenBy.last_write_wins (h : f.WrittenBy ws) :
    f.keys.Nodup ∧
      f.keys = (ws.map Prod.fst).eraseDups ∧
      (∀ k v, f.get? k = some v ↔
        ∃ before after, ws = before ++ (k, v) :: after ∧ k ∉ after.map Prod.fst) ∧
      (∀ k, f.get? k = none ↔ k ∉ ws.map Prod.fst) ∧
      (∀ k, f.contains k = true ↔ k ∈ ws.map Prod.fst) ∧
      f.size = (ws.map Prod.fst).eraseDups.length ∧
      (f.isEmpty = true ↔ ws = []) ∧
      f.entries = f.keys.filterMap (fun k => (f.get? k).map (k, ·)) ∧
      f.toJson = .obj (f.keys.filterMap fun k => (f.get? k).map fun v => (k, v.toJson)) := by
  have hf : f = .ofList ws := h.eq_ofList
  have hkeys : f.keys = (ws.map Prod.fst).eraseDups := by rw [hf, keys_ofList]
  have hmem : ∀ k, k ∈ f.keys ↔ k ∈ ws.map Prod.fst := by
    intro k
    rw [hkeys, List.mem_eraseDups]
  refine ⟨f.distinct, hkeys, ?_, ?_, ?_, ?_, ?_, f.entries_eq_filterMap, f.toJson_eq⟩
  · intro k v
    rw [hf, get?_ofList_eq_some_iff]
  · intro k
    rw [get?_eq_none_iff, hmem]
  · intro k
    rw [contains_iff, hmem]
  · rw [← hkeys, keys, List.length_map, size]
  · rw [isEmpty_iff, hkeys]
    cases ws with
    | nil => simp
    | cons w ws => simp [List.eraseDups_cons]

theorem WrittenBy.last_write_wins_foo :
    ∃ f g : Filter,
      f.WrittenBy [("foo", .int 1), ("bar__gt", .int 2)] ∧
      g.WrittenBy [("baz", .text "x"), ("foo", .int 3), ("baz", .text "y")] ∧
      ((f.merge g).insert "bar__gt" (.int 4)).keys = ["foo", "bar__gt", "baz"] ∧
      ((f.merge g).insert "bar__gt" (.int 4)).get? "foo" = some (.int 3) ∧
      ((f.merge g).insert "bar__gt" (.int 4)).get? "baz" = some (.text "y") ∧
      ((f.merge g).insert "bar__gt" (.int 4)).get? "bar" = none := by
  have hf : WrittenBy ((Filter.empty.insert "foo" (.int 1)).insert "bar__gt" (.int 2))
      [("foo", .int 1), ("bar__gt", .int 2)] :=
    (WrittenBy.empty.insert "foo" (.int 1)).insert "bar__gt" (.int 2)
  have hg := WrittenBy.ofList [("baz", .text "x"), ("foo", .int 3), ("baz", .text "y")]
  obtain ⟨-, hkeys, hget, hnone, -⟩ := ((hf.merge hg).insert "bar__gt" (.int 4)).last_write_wins
  refine ⟨_, _, hf, hg, ?_, ?_, ?_, ?_⟩
  · rw [hkeys]
    decide +kernel
  · exact (hget _ _).2 ⟨[("foo", .int 1), ("bar__gt", .int 2), ("baz", .text "y")],
      [("bar__gt", .int 4)], by decide +kernel, by decide +kernel⟩
  · exact (hget _ _).2 ⟨[("foo", .int 1), ("bar__gt", .int 2)],
      [("foo", .int 3), ("bar__gt", .int 4)], by decide +kernel, by decide +kernel⟩
  · rw [hnone]
    decide +kernel

end DocumentClient.Filter
