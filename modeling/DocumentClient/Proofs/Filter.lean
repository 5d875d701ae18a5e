import DocumentClient.Filter
import DocumentClient.Proofs.Keyed

namespace DocumentClient.Filter

theorem entries_ofList (pairs : List (String × Literal)) :
    (ofList pairs).entries = Keyed.putAll Prod.fst [] pairs :=
  entries_insertAll .empty pairs

theorem ofList_entries (f : Filter) : ofList f.entries = f := by
  apply ext
  rw [entries_ofList]
  exact Keyed.putAll_empty_of_nodup f.distinct

theorem merge_self (f : Filter) : f.merge f = f := by
  apply ext
  rw [merge, entries_insertAll]
  exact Keyed.putAll_self f.distinct

theorem entries_merge (f g : Filter) :
    (f.merge g).entries =
      f.entries.map (fun p => (p.1, (g.get? p.1).getD p.2)) ++
        g.entries.filter (fun p => p.1 ∉ f.keys) := by
  have hvalue : ∀ p : String × Literal, (Keyed.find? Prod.fst p.1 g.entries).getD p =
      (p.1, (g.get? p.1).getD p.2) := by
    intro p
    rw [get?]
    cases hq : Keyed.find? Prod.fst p.1 g.entries with
    | none => rfl
    | some q =>
      have hkey : q.1 = p.1 := Keyed.key_of_find?_eq_some hq
      exact Prod.ext hkey rfl
  rw [merge, entries_insertAll, Keyed.putAll_eq f.distinct g.distinct]
  exact congrArg (· ++ _) (List.map_congr_left fun p _ => hvalue p)

theorem insertAll_append (f : Filter) (xs ys : List (String × Literal)) :
    f.insertAll (xs ++ ys) = (f.insertAll xs).insertAll ys :=
  List.foldl_append

theorem merge_insertAll (f g : Filter) (pairs : List (String × Literal)) :
    f.merge (g.insertAll pairs) = (f.merge g).insertAll pairs := by
  apply ext
  rw [merge, merge, entries_insertAll, entries_insertAll, entries_insertAll, entries_insertAll,
    Keyed.putAll_putAll g.distinct]

theorem merge_empty (f : Filter) : f.merge empty = f := rfl

theorem empty_merge (f : Filter) : empty.merge f = f := ofList_entries f

theorem merge_assoc (f g h : Filter) : (f.merge g).merge h = f.merge (g.merge h) :=
  (merge_insertAll f g h.entries).symm

theorem merge_ofList (f : Filter) (pairs : List (String × Literal)) :
    f.merge (ofList pairs) = f.insertAll pairs := by
  rw [ofList, merge_insertAll, merge_empty]

theorem ofList_append (xs ys : List (String × Literal)) :
    ofList (xs ++ ys) = (ofList xs).merge (ofList ys) := by
  rw [merge_ofList, ofList, ofList, insertAll_append]

end DocumentClient.Filter
