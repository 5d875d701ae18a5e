/-!
Lists of entries that are told apart by a key.  Putting an entry replaces the one of its key where
it stands and otherwise goes to the end, so entries keep the order in which their keys came first.
-/

namespace DocumentClient.Keyed

variable {α : Type u} {κ : Type v} [DecidableEq κ]

def put (key : α → κ) (x : α) : List α → List α
  | [] => [x]
  | y :: ys => if key y = key x then x :: ys else y :: put key x ys

def find? (key : α → κ) (k : κ) (xs : List α) : Option α := xs.find? (key · = k)

def putAll (key : α → κ) (xs ys : List α) : List α := ys.foldl (fun acc y => put key y acc) xs

def erase (key : α → κ) (k : κ) (xs : List α) : List α := xs.eraseP (key · = k)

theorem map_put (key : α → κ) (x : α) (xs : List α) :
    (put key x xs).map key =
      if key x ∈ xs.map key then xs.map key else xs.map key ++ [key x] := by
  induction xs with
  | nil => rfl
  | cons y ys ih =>
    by_cases h : key y = key x
    · simp [put, h]
    · have h' : key x ≠ key y := Ne.symm h
      simp only [put, if_neg h, List.map_cons, ih, List.mem_cons, h', false_or]
      split <;> simp

theorem nodup_map_put {key : α → κ} {x : α} {xs : List α} (h : (xs.map key).Nodup) :
    ((put key x xs).map key).Nodup := by
  rw [map_put]
  split
  · exact h
  · next hx =>
    refine List.nodup_append.2 ⟨h, by simp, ?_⟩
    intro a ha b hb hab
    rw [List.mem_singleton.1 hb] at hab
    exact hx (hab ▸ ha)

theorem find?_put_self (key : α → κ) (x : α) (xs : List α) :
    find? key (key x) (put key x xs) = some x := by
  induction xs with
  | nil => simp [put, find?]
  | cons y ys ih =>
    by_cases h : key y = key x
    · simp [put, find?, h]
    · simpa [put, find?, h] using ih

theorem find?_put_of_ne {key : α → κ} {x : α} {k : κ} (h : k ≠ key x) (xs : List α) :
    find? key k (put key x xs) = find? key k xs := by
  induction xs with
  | nil => simp [put, find?, Ne.symm h]
  | cons y ys ih =>
    by_cases hy : key y = key x
    · simp [put, find?, hy, Ne.symm h]
    · simp only [put, if_neg hy, find?, List.find?_cons] at ih ⊢
      rw [ih]

end DocumentClient.Keyed
