import Mathlib.Data.List.Forall2

namespace DocumentClient

variable {α : Type u} {β : Type v} {ε : Type w} {f : α → Except ε β} {xs : List α}

theorem mapM_cons_error {x : α} {e : ε} (h : f x = .error e) : (x :: xs).mapM f = .error e := by
  rw [List.mapM_cons, h]
  rfl

theorem mapM_cons_ok {x : α} {y : β} (h : f x = .ok y) :
    (x :: xs).mapM f = (xs.mapM f).map (y :: ·) := by
  rw [List.mapM_cons, h]
  cases xs.mapM f <;> rfl

theorem exists_mem_of_mapM_error {e : ε} (h : xs.mapM f = .error e) : ∃ x ∈ xs, f x = .error e := by
  induction xs with
  | nil => cases h
  | cons x xs ih =>
    cases hx : f x with
    | error e' =>
      rw [mapM_cons_error hx] at h
      cases h
      exact ⟨x, by simp, hx⟩
    | ok y =>
      rw [mapM_cons_ok hx] at h
      cases hxs : xs.mapM f with
      | error e' =>
        rw [hxs] at h
        cases h
        obtain ⟨z, hz, he⟩ := ih hxs
        exact ⟨z, by simp [hz], he⟩
      | ok ys =>
        rw [hxs] at h
        cases h

theorem mapM_error_of_mem {x : α} {e : ε} (hx : x ∈ xs) (h : f x = .error e) :
    ∃ e', xs.mapM f = .error e' := by
  induction xs with
  | nil => simp at hx
  | cons z zs ih =>
    cases hz : f z with
    | error e' => exact ⟨e', mapM_cons_error hz⟩
    | ok y =>
      rcases List.mem_cons.1 hx with rfl | hx
      · rw [h] at hz
        cases hz
      · obtain ⟨e', he⟩ := ih hx
        exact ⟨e', by rw [mapM_cons_ok hz, he]; rfl⟩

theorem mapM_eq_ok_iff {ys : List β} :
    xs.mapM f = .ok ys ↔ List.Forall₂ (fun x y => f x = .ok y) xs ys := by
  induction xs generalizing ys with
  | nil => cases ys <;> simp [pure, Except.pure]
  | cons x xs ih =>
    cases hx : f x with
    | error e => simp [mapM_cons_error hx, List.forall₂_cons_left_iff, hx]
    | ok y =>
      rw [mapM_cons_ok hx]
      cases hxs : xs.mapM f <;>
        simp [Except.map, List.forall₂_cons_left_iff, hx, ← ih, hxs, eq_comm]

theorem exists_mapM_ok_iff : (∃ ys, xs.mapM f = .ok ys) ↔ ∀ x ∈ xs, ∃ y, f x = .ok y := by
  constructor
  · rintro ⟨ys, hys⟩ x hx
    cases h : f x with
    | ok y => exact ⟨y, rfl⟩
    | error e =>
      obtain ⟨e', he⟩ := mapM_error_of_mem hx h
      rw [hys] at he
      cases he
  · intro hall
    cases h : xs.mapM f with
    | ok ys => exact ⟨ys, rfl⟩
    | error e =>
      obtain ⟨x, hx, he⟩ := exists_mem_of_mapM_error h
      obtain ⟨y, hy⟩ := hall x hx
      rw [hy] at he
      cases he

theorem exists_map_ok_iff {γ : Type x} {g : β → γ} {r : Except ε β} :
    (∃ z, r.map g = .ok z) ↔ ∃ y, r = .ok y := by
  cases r <;> simp [Except.map]

theorem bind_eq_ok_iff {γ : Type v} {g : β → Except ε γ} {r : Except ε β} {z : γ} :
    (r >>= g) = .ok z ↔ ∃ y, r = .ok y ∧ g y = .ok z := by
  cases r <;> simp [bind, Except.bind]

theorem bind_eq_error_iff {γ : Type v} {g : β → Except ε γ} {r : Except ε β} {e : ε} :
    (r >>= g) = .error e ↔ r = .error e ∨ ∃ y, r = .ok y ∧ g y = .error e := by
  cases r <;> simp [bind, Except.bind]

theorem map_eq_ok_iff {γ : Type x} {g : β → γ} {r : Except ε β} {z : γ} :
    r.map g = .ok z ↔ ∃ y, r = .ok y ∧ g y = z := by
  cases r <;> simp [Except.map]

theorem map_eq_error_iff {γ : Type x} {g : β → γ} {r : Except ε β} {e : ε} :
    r.map g = .error e ↔ r = .error e := by
  cases r <;> simp [Except.map]

theorem mapError_eq_ok_iff {δ : Type x} {g : ε → δ} {r : Except ε β} {y : β} :
    r.mapError g = .ok y ↔ r = .ok y := by
  cases r <;> simp [Except.mapError]

theorem mapError_eq_error_iff {δ : Type x} {g : ε → δ} {r : Except ε β} {e : δ} :
    r.mapError g = .error e ↔ ∃ cause, r = .error cause ∧ g cause = e := by
  cases r <;> simp [Except.mapError]

end DocumentClient
