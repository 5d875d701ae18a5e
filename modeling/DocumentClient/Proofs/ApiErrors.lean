import DocumentClient.Resource.ApiErrors
import Mathlib.Data.Set.List

namespace DocumentClient

theorem intercalate_flatMap {α : Type u} {sep : String} {f : α → List String} {xs : List α}
    (h : ∀ x ∈ xs, f x ≠ []) :
    sep.intercalate (xs.map fun x => sep.intercalate (f x)) = sep.intercalate (xs.flatMap f) := by
  induction xs with
  | nil => rfl
  | cons x xs ih =>
    have hx : f x ≠ [] := h x (by simp)
    have hxs : ∀ y ∈ xs, f y ≠ [] := fun y hy => h y (by simp [hy])
    rw [List.map_cons, List.flatMap_cons]
    by_cases hnil : xs = []
    · simp [hnil]
    · have hrest : xs.flatMap f ≠ [] := by
        obtain ⟨y, ys, rfl⟩ := List.exists_cons_of_ne_nil hnil
        simp [hxs y]
      rw [String.intercalate_cons_of_ne_nil (by simpa using hnil), ih hxs,
        String.intercalate_append_of_ne_nil hx hrest]

namespace Json

@[elab_as_elim]
theorem nesting_induction {P : Json → Prop} (leaf : ∀ v, (∀ items, v ≠ .arr items) → P v)
    (list : ∀ items, (∀ v ∈ items, P v) → P (.arr items)) : (v : Json) → P v
  | .arr items => list items fun v _ => nesting_induction leaf list v
  | .null | .bool _ | .num _ | .str _ | .obj _ => leaf _ (by simp)

mutual

/-- What stands in a nesting of lists, from left to right; an empty list stands for itself. -/
def leaves : Json → List Json
  | .arr [] => [.arr []]
  | .arr (v :: vs) => leaves v ++ leavesOf vs
  | v => [v]

def leavesOf : List Json → List Json
  | [] => []
  | v :: vs => leaves v ++ leavesOf vs

end

theorem leavesOf_eq_flatMap (vs : List Json) : leavesOf vs = vs.flatMap leaves := by
  induction vs with
  | nil => rfl
  | cons v vs ih => rw [leavesOf, ih, List.flatMap_cons]

theorem leaves_arr {items : List Json} (h : items ≠ []) :
    leaves (.arr items) = items.flatMap leaves := by
  obtain ⟨v, vs, rfl⟩ := List.exists_cons_of_ne_nil h
  rw [leaves, leavesOf_eq_flatMap, List.flatMap_cons]

theorem leaves_of_ne_arr {v : Json} (h : ∀ items, v ≠ .arr items) : leaves v = [v] := by
  cases v with
  | arr items => exact absurd rfl (h items)
  | null | bool | num | str | obj => rfl

theorem leaves_ne_nil (v : Json) : leaves v ≠ [] := by
  induction v using nesting_induction with
  | leaf v h => simp [leaves_of_ne_arr h]
  | list items ih =>
    cases items with
    | nil => simp [leaves]
    | cons v vs => simp [leaves, ih v]

inductive IsNesting : Json → Prop
  | text (s : String) : IsNesting (.str s)
  | list {items : List Json} : items ≠ [] → (∀ v ∈ items, IsNesting v) → IsNesting (.arr items)

theorem IsNesting.text_of_mem_leaves {v : Json} (h : IsNesting v) :
    ∀ w ∈ leaves v, w ∈ Set.range Json.str := by
  induction h with
  | text s => simp [leaves]
  | list hne _ ih =>
    rw [leaves_arr hne]
    intro w hw
    obtain ⟨v, hv, hw⟩ := List.mem_flatMap.1 hw
    exact ih v hv w hw

theorem IsNesting.exists_texts {v : Json} (h : IsNesting v) :
    ∃ texts : List String, leaves v = texts.map .str := by
  have hrange : leaves v ∈ Set.range (List.map Json.str) := by
    rw [Set.range_list_map]
    exact h.text_of_mem_leaves
  obtain ⟨texts, htexts⟩ := hrange
  exact ⟨texts, htexts.symm⟩

end Json

namespace ApiErrors

open Json (leaves IsNesting)

theorem messagesOf_eq_map (items : List Json) : messagesOf items = items.map messageOf := by
  induction items with
  | nil => rfl
  | cons v vs ih => rw [messagesOf, ih, List.map_cons]

theorem messageOf_arr (items : List Json) :
    messageOf (.arr items) = ", ".intercalate (items.map messageOf) := by
  rw [messageOf, messagesOf_eq_map]

theorem messageOf_eq_leaves (v : Json) :
    messageOf v = ", ".intercalate ((leaves v).map messageOf) := by
  induction v using Json.nesting_induction with
  | leaf v h => simp [Json.leaves_of_ne_arr h]
  | list items ih =>
    by_cases hne : items = []
    · subst hne
      simp [leaves]
    · have hleaves : ∀ v ∈ items, (leaves v).map messageOf ≠ [] := by
        simp [Json.leaves_ne_nil]
      calc
        messageOf (.arr items) = ", ".intercalate (items.map messageOf) := messageOf_arr items
        _ = ", ".intercalate (items.map fun v => ", ".intercalate ((leaves v).map messageOf)) := by
          rw [List.map_congr_left ih]
        _ = ", ".intercalate (items.flatMap fun v => (leaves v).map messageOf) :=
          intercalate_flatMap hleaves
        _ = ", ".intercalate ((leaves (.arr items)).map messageOf) := by
          rw [Json.leaves_arr hne, List.map_flatMap]

theorem messageOf_of_leaves {v : Json} {texts : List String} (h : leaves v = texts.map .str) :
    messageOf v = ", ".intercalate texts := by
  have htexts : (texts.map Json.str).map messageOf = texts := by
    rw [List.map_map]
    exact List.map_id'' (fun s => rfl) texts
  rw [messageOf_eq_leaves, h, htexts]

theorem messages_entries :
    messages ⟨.null⟩ = [] ∧
    (∀ items, messages ⟨.arr items⟩ = items.map messageOf) ∧
    (∀ fs, messages ⟨.obj fs⟩ = fs.map fun f => f.1 ++ ": " ++ messageOf f.2) ∧
    (∀ v, v ≠ .null → (∀ items, v ≠ .arr items) → (∀ fs, v ≠ .obj fs) →
      messages ⟨v⟩ = [messageOf v]) ∧
    (∀ v, IsNesting v → ∃ texts : List String, leaves v = texts.map .str ∧
      messageOf v = ", ".intercalate texts) ∧
    (∀ v, messageOf v = ", ".intercalate ((leaves v).map messageOf)) ∧
    ∀ v w, leaves v = leaves w → messageOf v = messageOf w := by
  refine ⟨rfl, messagesOf_eq_map, fun fs => rfl, ?_, ?_, messageOf_eq_leaves, ?_⟩
  · intro v hnull hlist hobject
    cases v with
    | null => exact absurd rfl hnull
    | arr items => exact absurd rfl (hlist items)
    | obj fs => exact absurd rfl (hobject fs)
    | bool | num | str => rfl
  · intro v hv
    obtain ⟨texts, htexts⟩ := hv.exists_texts
    exact ⟨texts, htexts, messageOf_of_leaves htexts⟩
  · intro v w h
    rw [messageOf_eq_leaves v, messageOf_eq_leaves w, h]

-- An empty list is a leaf without text, so it cannot be left out.
example : messageOf (.arr [.arr [], .str "is required"]) = ", is required" := by decide

theorem messages_entries_grouped :
    let nested : Json := .arr [.str "is required", .arr [.arr [.str "is short"], .str "is blank"]]
    let regrouped : Json := .arr [.arr [.str "is required", .str "is short"], .str "is blank"]
    IsNesting nested ∧ messages ⟨.obj [("name", nested)]⟩ =
        ["name: is required, is short, is blank"] ∧
      messages ⟨.arr [nested, .null]⟩ = messages ⟨.arr [regrouped, .null]⟩ := by
  intro nested regrouped
  obtain ⟨-, harr, hobj, -, htexts, -, hregroup⟩ := messages_entries
  have hnesting : IsNesting nested :=
    .list (by simp) (by simp [IsNesting.text, IsNesting.list])
  obtain ⟨texts, hleaves, hmessage⟩ := htexts nested hnesting
  obtain rfl : ["is required", "is short", "is blank"] = texts :=
    (List.map_inj_right fun _ _ => Json.str.inj).1 hleaves
  refine ⟨hnesting, ?_, ?_⟩
  · rw [hobj, List.map_singleton, hmessage]
    rfl
  · simp only [harr, List.map_cons, hregroup nested regrouped rfl]

end ApiErrors

end DocumentClient
