import DocumentClient.Keyed
import Mathlib.Data.List.Basic
import Mathlib.Data.List.Induction

namespace DocumentClient.Keyed

variable {α : Type u} {κ : Type v} [DecidableEq κ] {key : α → κ}

@[simp] theorem putAll_nil (xs : List α) : putAll key xs [] = xs := rfl

@[simp] theorem putAll_cons (xs : List α) (y : α) (ys : List α) :
    putAll key xs (y :: ys) = putAll key (put key y xs) ys := rfl

@[simp] theorem putAll_append (xs ys zs : List α) :
    putAll key xs (ys ++ zs) = putAll key (putAll key xs ys) zs := by
  simp [putAll, List.foldl_append]

theorem mem_map_put {x : α} {k : κ} {xs : List α} :
    k ∈ (put key x xs).map key ↔ k ∈ xs.map key ∨ k = key x := by
  rw [map_put]
  split
  · next h =>
    constructor
    · exact Or.inl
    · rintro (hk | rfl)
      · exact hk
      · exact h
  · simp

theorem nodup_map_putAll {xs : List α} (h : (xs.map key).Nodup) (ys : List α) :
    ((putAll key xs ys).map key).Nodup := by
  induction ys generalizing xs with
  | nil => exact h
  | cons y ys ih => exact ih (nodup_map_put h)

theorem find?_put (x : α) (k : κ) (xs : List α) :
    find? key k (put key x xs) = if key x = k then some x else find? key k xs := by
  split
  · next h => rw [← h, find?_put_self]
  · next h => rw [find?_put_of_ne (Ne.symm h)]

theorem find?_putAll (k : κ) (xs ys : List α) :
    find? key k (putAll key xs ys) = (ys.findRev? (key · = k)).or (find? key k xs) := by
  induction ys generalizing xs with
  | nil => simp
  | cons y ys ih =>
    rw [putAll_cons, ih, find?_put]
    simp only [List.findRev?_eq_find?_reverse, List.reverse_cons, List.find?_append,
      List.find?_singleton, Option.or_assoc]
    split <;> simp_all

theorem map_putAll_empty (ys : List α) :
    (putAll key [] ys).map key = (ys.map key).eraseDups := by
  -- From the right, since whether an entry is new depends on those before it.
  induction ys using List.reverseRecOn with
  | nil => rfl
  | append_singleton ys y ih =>
    rw [putAll_append, putAll_cons, putAll_nil, map_put, ih, List.map_append,
      List.eraseDups_append]
    by_cases h : key y ∈ ys.map key
    · simp_all [List.removeAll]
    · simp_all [List.removeAll, List.eraseDups_cons]

theorem filterMap_find?_map {xs : List α} (h : (xs.map key).Nodup) :
    (xs.map key).filterMap (find? key · xs) = xs := by
  induction xs with
  | nil => rfl
  | cons x xs ih =>
    rw [List.map_cons, List.nodup_cons] at h
    have hx : find? key (key x) (x :: xs) = some x := by simp [find?]
    have hxs : ∀ k ∈ xs.map key, find? key k (x :: xs) = find? key k xs := by
      intro k hk
      have : key x ≠ k := fun e => h.1 (e ▸ hk)
      simp [find?, this]
    rw [List.map_cons, List.filterMap_cons, hx, List.filterMap_congr hxs, ih h.2]

/-- One entry for each key, in the order in which the keys came first, and each the last of its
key. -/
def lastOfEach (key : α → κ) (xs : List α) : List α :=
  (xs.map key).eraseDups.filterMap fun k => xs.findRev? (key · = k)

theorem putAll_empty (ys : List α) : putAll key [] ys = lastOfEach key ys := by
  have hn : ((putAll key [] ys).map key).Nodup := nodup_map_putAll (by simp) ys
  calc
    putAll key [] ys =
        ((putAll key [] ys).map key).filterMap (find? key · (putAll key [] ys)) :=
      (filterMap_find?_map hn).symm
    _ = lastOfEach key ys := by
      rw [lastOfEach, map_putAll_empty]
      congr 1
      funext k
      rw [find?_putAll]
      simp [find?]

theorem put_put {x y : α} (h : key x = key y) (xs : List α) :
    put key y (put key x xs) = put key y xs := by
  induction xs with
  | nil => simp [put, h]
  | cons z zs ih =>
    by_cases hz : key z = key x
    · simp [put, h, hz]
    · have hz' : key z ≠ key y := h ▸ hz
      simp [put, hz, hz', ih]

theorem put_comm {x y : α} (h : key x ≠ key y) {xs : List α} (hy : key y ∈ xs.map key) :
    put key y (put key x xs) = put key x (put key y xs) := by
  induction xs with
  | nil => simp at hy
  | cons z zs ih =>
    by_cases hx : key z = key x
    · have hzy : key z ≠ key y := hx ▸ h
      simp [put, hx, h]
    · by_cases hzy : key z = key y
      · simp [put, hzy, Ne.symm h]
      · have hmem : key y ∈ zs.map key := by
          simpa [Ne.symm hzy] using hy
        simp [put, hx, hzy, ih hmem]

theorem put_putAll {y : α} {xs : List α} (hy : key y ∈ xs.map key) (ys : List α) :
    put key y (putAll key xs ys) =
      putAll key (put key y xs) (ys.filter (key · ≠ key y)) := by
  -- The key of `y` stays where it is, so a put of another key changes places with that of `y`.
  induction ys generalizing xs with
  | nil => rfl
  | cons x ys ih =>
    have hmem : key y ∈ (put key x xs).map key := mem_map_put.2 (Or.inl hy)
    rw [putAll_cons, ih hmem]
    by_cases h : key x = key y
    · simp [h, put_put]
    · simp [h, put_comm h hy]

theorem putAll_overwrite {x y : α} (h : key x = key y) (xs pre mid post : List α) :
    putAll key xs (pre ++ x :: mid ++ y :: post) =
      putAll key xs (pre ++ y :: mid.filter (key · ≠ key y) ++ post) := by
  have hy : key y ∈ (put key x (putAll key xs pre)).map key := mem_map_put.2 (Or.inr h.symm)
  simp only [putAll_append, putAll_cons]
  rw [put_putAll hy, put_put h]

theorem putAll_put {ys : List α} (h : (ys.map key).Nodup) (xs : List α) (z : α) :
    putAll key xs (put key z ys) = put key z (putAll key xs ys) := by
  -- Where the key of `z` comes up in `ys` no later entry has it, so the new value can wait.
  induction ys generalizing xs with
  | nil => rfl
  | cons y ys ih =>
    rw [List.map_cons, List.nodup_cons] at h
    by_cases hy : key y = key z
    · have hmem : key z ∈ (put key y xs).map key := mem_map_put.2 (Or.inr hy.symm)
      have hrest : ys.filter (key · ≠ key z) = ys := by
        refine List.filter_eq_self.2 fun x hx => decide_eq_true fun hkey => ?_
        exact h.1 (hy.trans hkey.symm ▸ List.mem_map_of_mem hx)
      rw [put, if_pos hy, putAll_cons, putAll_cons, put_putAll hmem, put_put hy, hrest]
    · rw [put, if_neg hy, putAll_cons, putAll_cons, ih h.2]

theorem putAll_putAll {ys : List α} (h : (ys.map key).Nodup) (xs zs : List α) :
    putAll key xs (putAll key ys zs) = putAll key (putAll key xs ys) zs := by
  induction zs generalizing ys with
  | nil => rfl
  | cons z zs ih => rw [putAll_cons, ih (nodup_map_put h), putAll_put h, putAll_cons]

theorem find?_putAll_empty_eq_some_iff {k : κ} {x : α} {ys : List α} :
    find? key k (putAll key [] ys) = some x ↔
      ∃ before after, ys = before ++ x :: after ∧ key x = k ∧ k ∉ after.map key := by
  have hlast : find? key k (putAll key [] ys) = ys.reverse.find? (key · = k) := by
    rw [find?_putAll, List.findRev?_eq_find?_reverse]
    exact Option.or_none
  rw [hlast, List.find?_eq_some_iff_append]
  constructor
  · rintro ⟨hkey, as, bs, hrev, has⟩
    refine ⟨bs.reverse, as.reverse, ?_, of_decide_eq_true hkey, ?_⟩
    · rw [← List.reverse_reverse ys, hrev]
      simp
    · rintro hmem
      obtain ⟨a, ha, hak⟩ := List.mem_map.1 hmem
      simpa [hak] using has a (List.mem_reverse.1 ha)
  · rintro ⟨before, after, rfl, hkey, hafter⟩
    refine ⟨decide_eq_true hkey, after.reverse, before.reverse, by simp, ?_⟩
    intro a ha
    have hne : key a ≠ k := fun e =>
      hafter (e ▸ List.mem_map_of_mem (List.mem_reverse.1 ha))
    simpa using hne

theorem of_mem_put {x y : α} {xs : List α} (h : y ∈ put key x xs) : y ∈ xs ∨ y = x := by
  induction xs with
  | nil => exact Or.inr (List.mem_singleton.1 h)
  | cons z zs ih =>
    by_cases hz : key z = key x
    · simp only [put, if_pos hz, List.mem_cons] at h
      rcases h with rfl | h
      · exact Or.inr rfl
      · exact Or.inl (List.mem_cons_of_mem _ h)
    · simp only [put, if_neg hz, List.mem_cons] at h
      rcases h with rfl | h
      · exact Or.inl List.mem_cons_self
      · exact (ih h).imp_left (List.mem_cons_of_mem _)

theorem of_mem_putAll {y : α} {xs ys : List α} (h : y ∈ putAll key xs ys) : y ∈ xs ∨ y ∈ ys := by
  induction ys generalizing xs with
  | nil => exact Or.inl h
  | cons z zs ih =>
    rcases ih h with h | h
    · rcases of_mem_put h with h | rfl
      · exact Or.inl h
      · exact Or.inr List.mem_cons_self
    · exact Or.inr (List.mem_cons_of_mem _ h)

theorem put_of_not_mem {x : α} {xs : List α} (h : key x ∉ xs.map key) :
    put key x xs = xs ++ [x] := by
  induction xs with
  | nil => rfl
  | cons y ys ih =>
    rw [List.map_cons, List.mem_cons, not_or] at h
    rw [put, if_neg (Ne.symm h.1), ih h.2, List.cons_append]

theorem put_of_mem {x : α} {xs : List α} (hxs : (xs.map key).Nodup) (h : key x ∈ xs.map key) :
    put key x xs = xs.map fun y => if key y = key x then x else y := by
  induction xs with
  | nil => simp at h
  | cons y ys ih =>
    rw [List.map_cons, List.nodup_cons] at hxs
    by_cases hy : key y = key x
    ·
      have hys : ∀ z ∈ ys, (if key z = key x then x else z) = z := by
        intro z hz
        have hne : key z ≠ key x := fun e => hxs.1 (hy.trans e.symm ▸ List.mem_map_of_mem hz)
        exact if_neg hne
      rw [put, if_pos hy, List.map_cons, if_pos hy, List.map_congr_left hys, List.map_id']
    · have hmem : key x ∈ ys.map key := by simpa [Ne.symm hy] using h
      rw [put, if_neg hy, List.map_cons, if_neg hy, ih hxs.2 hmem]

theorem find?_eq_none_iff {k : κ} {xs : List α} :
    find? key k xs = none ↔ k ∉ xs.map key := by
  simp [find?]

theorem find?_eq_some_of_mem {x : α} {xs : List α} (hxs : (xs.map key).Nodup) (h : x ∈ xs) :
    find? key (key x) xs = some x := by
  induction xs with
  | nil => simp at h
  | cons y ys ih =>
    rw [List.map_cons, List.nodup_cons] at hxs
    rcases List.mem_cons.1 h with rfl | h
    · simp [find?]
    · have hne : key y ≠ key x := fun e => hxs.1 (e ▸ List.mem_map_of_mem h)
      simpa [find?, hne] using ih hxs.2 h

theorem key_of_find?_eq_some {k : κ} {x : α} {xs : List α} (h : find? key k xs = some x) :
    key x = k := by
  simpa using List.find?_some h

theorem find?_cons (k : κ) (x : α) (xs : List α) :
    find? key k (x :: xs) = if key x = k then some x else find? key k xs := by
  by_cases h : key x = k <;> simp [find?, h]

theorem putAll_eq {xs ys : List α} (hxs : (xs.map key).Nodup) (hys : (ys.map key).Nodup) :
    putAll key xs ys =
      xs.map (fun x => (find? key (key x) ys).getD x) ++ ys.filter (key · ∉ xs.map key) := by
  induction ys generalizing xs with
  | nil => simp [find?]
  | cons y ys ih =>
    rw [List.map_cons, List.nodup_cons] at hys
    rw [putAll_cons, ih (nodup_map_put hxs) hys.2, map_put]
    have hlast : find? key (key y) ys = none := find?_eq_none_iff.2 hys.1
    by_cases hy : key y ∈ xs.map key
    · have hvalue : ∀ x, (find? key (key (if key x = key y then y else x)) ys).getD
          (if key x = key y then y else x) = (find? key (key x) (y :: ys)).getD x := by
        intro x
        by_cases hx : key x = key y
        · simp [find?_cons, hx, hlast]
        · simp [find?_cons, hx, Ne.symm hx]
      have hnew : (y :: ys).filter (key · ∉ xs.map key) = ys.filter (key · ∉ xs.map key) :=
        List.filter_cons_of_neg (by simpa using hy)
      rw [if_pos hy, put_of_mem hxs hy, List.map_map, hnew]
      exact congrArg (· ++ _) (List.map_congr_left fun x _ => hvalue x)
    · have hvalue : ∀ x ∈ xs, (find? key (key x) ys).getD x =
          (find? key (key x) (y :: ys)).getD x := by
        intro x hx
        have hne : key y ≠ key x := fun e => hy (e ▸ List.mem_map_of_mem hx)
        rw [find?_cons, if_neg hne]
      have hnew : ∀ z ∈ ys,
          decide (key z ∉ xs.map key ++ [key y]) = decide (key z ∉ xs.map key) := by
        intro z hz
        have hne : key z ≠ key y := fun e => hys.1 (e ▸ List.mem_map_of_mem hz)
        simp [hne]
      rw [if_neg hy, put_of_not_mem hy, List.map_append, List.map_congr_left hvalue,
        List.filter_congr hnew, List.filter_cons, if_pos (by simpa using hy)]
      simp [hlast]

theorem putAll_self {xs : List α} (h : (xs.map key).Nodup) : putAll key xs xs = xs := by
  have hvalue : ∀ x ∈ xs, (find? key (key x) xs).getD x = x := by
    intro x hx
    rw [find?_eq_some_of_mem h hx, Option.getD_some]
  have hnew : xs.filter (key · ∉ xs.map key) = [] := by
    apply List.filter_eq_nil_iff.2
    intro x hx
    simpa using List.mem_map_of_mem hx
  rw [putAll_eq h h, hnew, List.append_nil, List.map_congr_left hvalue, List.map_id']

theorem putAll_empty_of_nodup {xs : List α} (h : (xs.map key).Nodup) : putAll key [] xs = xs := by
  rw [putAll_eq (by simp) h]
  simp

theorem erase_cons (k : κ) (x : α) (xs : List α) :
    erase key k (x :: xs) = if key x = k then xs else x :: erase key k xs := by
  by_cases h : key x = k <;> simp [erase, h]

theorem erase_put_self (x : α) (xs : List α) :
    erase key (key x) (put key x xs) = erase key (key x) xs := by
  induction xs with
  | nil => simp [put, erase]
  | cons y ys ih =>
    by_cases hy : key y = key x
    · simp [put, erase_cons, hy]
    · simp [put, erase_cons, hy, ih]

theorem erase_put_of_ne {x : α} {k : κ} (h : k ≠ key x) (xs : List α) :
    erase key k (put key x xs) = put key x (erase key k xs) := by
  induction xs with
  | nil => simp [put, erase, Ne.symm h]
  | cons y ys ih =>
    by_cases hy : key y = key x
    · simp [put, erase_cons, hy, Ne.symm h]
    · by_cases hk : key y = k
      · simp [put, erase_cons, hk, h]
      · simp [put, erase_cons, hy, hk, ih]

theorem put_eq_self {x : α} {xs : List α} (h : find? key (key x) xs = some x) :
    put key x xs = xs := by
  induction xs with
  | nil => simp [find?] at h
  | cons y ys ih =>
    rw [find?_cons] at h
    by_cases hy : key y = key x
    · rw [if_pos hy] at h
      rw [put, if_pos hy, Option.some.inj h]
    · rw [if_neg hy] at h
      rw [put, if_neg hy, ih h]

theorem erase_eq_filter {k : κ} {xs : List α} (h : (xs.map key).Nodup) :
    erase key k xs = xs.filter (key · ≠ k) := by
  induction xs with
  | nil => rfl
  | cons x xs ih =>
    rw [List.map_cons, List.nodup_cons] at h
    rw [erase_cons]
    split
    · next hx =>
      have hrest : ∀ y ∈ xs, decide (key y ≠ k) = true := by
        intro y hy
        have hne : key y ≠ k := fun e => h.1 (hx ▸ e ▸ List.mem_map_of_mem hy)
        simpa using hne
      rw [List.filter_cons_of_neg (by simpa using hx), List.filter_eq_self.2 hrest]
    · next hx => rw [List.filter_cons_of_pos (by simpa using hx), ih h.2]

theorem not_mem_map_erase {k : κ} {xs : List α} (h : (xs.map key).Nodup) :
    k ∉ (erase key k xs).map key := by
  rw [erase_eq_filter h]
  simp

theorem find?_erase_self {k : κ} {xs : List α} (h : (xs.map key).Nodup) :
    find? key k (erase key k xs) = none :=
  find?_eq_none_iff.2 (not_mem_map_erase h)

theorem find?_erase_of_ne {k l : κ} (h : k ≠ l) (xs : List α) :
    find? key k (erase key l xs) = find? key k xs := by
  induction xs with
  | nil => rfl
  | cons x xs ih =>
    rw [erase_cons]
    split
    · next hx => rw [find?_cons, if_neg (hx ▸ Ne.symm h)]
    · rw [find?_cons, find?_cons, ih]

section

variable {β : Type w} {lab : Type x} [DecidableEq lab] {label : β → lab} {f : α → β}

theorem find?_map {k : κ} {l : lab} {xs : List α} (h : ∀ x ∈ xs, label (f x) = l ↔ key x = k) :
    find? label l (xs.map f) = (find? key k xs).map f := by
  induction xs with
  | nil => rfl
  | cons x xs ih =>
    have hx : label (f x) = l ↔ key x = k := h x List.mem_cons_self
    rw [List.map_cons, find?_cons, find?_cons, ih fun y hy => h y (List.mem_cons_of_mem _ hy)]
    by_cases hk : key x = k <;> simp [hx, hk]

theorem put_map {x : α} {xs : List α} (h : ∀ y ∈ xs, label (f y) = label (f x) ↔ key y = key x) :
    put label (f x) (xs.map f) = (put key x xs).map f := by
  induction xs with
  | nil => rfl
  | cons y ys ih =>
    have hy : label (f y) = label (f x) ↔ key y = key x := h y List.mem_cons_self
    rw [List.map_cons, put, put, ih fun z hz => h z (List.mem_cons_of_mem _ hz)]
    by_cases hk : key y = key x <;> simp [hy, hk]

theorem putAll_map {P : α → Prop}
    (h : ∀ x y, P x → P y → (label (f x) = label (f y) ↔ key x = key y)) {xs ys : List α}
    (hxs : ∀ x ∈ xs, P x) (hys : ∀ y ∈ ys, P y) :
    putAll label (xs.map f) (ys.map f) = (putAll key xs ys).map f := by
  induction ys generalizing xs with
  | nil => rfl
  | cons y ys ih =>
    have hy : P y := hys y List.mem_cons_self
    have hput : ∀ x ∈ put key y xs, P x := by
      intro x hx
      rcases of_mem_put hx with hx | rfl
      · exact hxs x hx
      · exact hy
    rw [List.map_cons, putAll_cons, putAll_cons, put_map fun x hx => h x y (hxs x hx) hy,
      ih hput fun z hz => hys z (List.mem_cons_of_mem _ hz)]

end

end DocumentClient.Keyed
