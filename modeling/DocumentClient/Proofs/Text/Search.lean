import DocumentClient.Proofs.Text

namespace DocumentClient.Text

variable {p : Char → Bool} {c : Char} {s t r w : List Char}

theorem prefix_append_cons_iff (hc : c ∉ t) : t <+: s ++ c :: r ↔ t <+: s := by
  induction s generalizing t with
  | nil =>
    cases t with
    | nil => simp
    | cons d t =>
      have hne : d ≠ c := fun h => hc (by simp [h])
      simp [List.cons_prefix_cons, hne]
  | cons e s ih =>
    cases t with
    | nil => simp
    | cons d t =>
      have htail : c ∉ t := fun h => hc (by simp [h])
      rw [List.cons_append, List.cons_prefix_cons, List.cons_prefix_cons, ih htail]

theorem infix_append_cons_iff (hne : t ≠ []) (hc : c ∉ t) :
    t <:+: s ++ c :: r ↔ t <:+: s ∨ t <:+: r := by
  induction s with
  | nil =>
    have hstart : ¬ t <+: c :: r := fun h =>
      hne (List.prefix_nil.1 ((prefix_append_cons_iff (s := []) hc).1 h))
    simp [List.infix_cons_iff, hstart, hne]
  | cons d s ih =>
    have hstart : t <+: d :: (s ++ c :: r) ↔ t <+: d :: s :=
      prefix_append_cons_iff (s := d :: s) hc
    rw [List.cons_append, List.infix_cons_iff, hstart, ih, List.infix_cons_iff, or_assoc]

theorem infix_iff_exists_mem_splitOnP (hne : t ≠ []) (ht : ∀ c ∈ t, p c = false)
    (s : List Char) : t <:+: s ↔ ∃ w ∈ s.splitOnP p, t <:+: w := by
  by_cases hs : ∀ c ∈ s, p c = false
  · simp [List.splitOnP_eq_singleton hs]
  · obtain ⟨c, hmem, hc⟩ : ∃ c ∈ s, p c = true := by simpa using hs
    have hnot : c ∉ t := fun h => by simp [ht c h] at hc
    -- `t` cannot reach over `c`, so it stands on one side, and both sides are shorter.
    obtain ⟨before, after, rfl⟩ := List.append_of_mem hmem
    rw [infix_append_cons_iff hne hnot, List.splitOnP_append_cons _ _ hc,
      infix_iff_exists_mem_splitOnP hne ht before, infix_iff_exists_mem_splitOnP hne ht after]
    simp only [List.mem_append, or_and_right, exists_or]
termination_by s.length

theorem infix_iff_exists_mem_words (hne : t ≠ []) (ht : ∀ c ∈ t, isBlank c = false)
    (s : List Char) : t <:+: s ↔ ∃ w ∈ words s, t <:+: w := by
  rw [infix_iff_exists_mem_splitOnP hne ht]
  constructor
  · rintro ⟨w, hw, hinfix⟩
    have hword : w ≠ [] := by
      rintro rfl
      exact hne (List.infix_nil.1 hinfix)
    exact ⟨w, List.mem_filter.2 ⟨hw, by simpa using hword⟩, hinfix⟩
  · rintro ⟨w, hw, hinfix⟩
    exact ⟨w, (List.mem_filter.1 hw).1, hinfix⟩

theorem infix_congr_words (hne : t ≠ []) (ht : ∀ c ∈ t, isBlank c = false)
    (h : words s = words r) : t <:+: s ↔ t <:+: r := by
  rw [infix_iff_exists_mem_words hne ht, infix_iff_exists_mem_words hne ht, h]

def IsWord (s : List Char) : Prop := s ≠ [] ∧ ∀ c ∈ s, isBlank c = false

theorem IsWord.words_eq (h : IsWord s) : words s = [s] := words_of_forall h.1 h.2

theorem IsWord.words_append_cons {c : Char} (h : IsWord w) (hc : isBlank c = true)
    (s : List Char) : words (w ++ c :: s) = w :: words s :=
  Text.words_append_cons h.1 h.2 hc s

theorem isWord_of_mem_words (h : w ∈ words s) : IsWord w :=
  ⟨ne_nil_of_mem_words h, not_isBlank_of_mem_words h⟩

theorem words_ne_nil {c : Char} (hmem : c ∈ s) (hc : isBlank c = false) : words s ≠ [] := by
  obtain ⟨before, after, rfl⟩ := List.append_of_mem hmem
  have hinfix : [c] <:+: before ++ c :: after := ⟨before, after, by simp⟩
  obtain ⟨w, hw, -⟩ := (infix_iff_exists_mem_words (by simp) (by simpa using hc) _).1 hinfix
  exact List.ne_nil_of_mem hw

end DocumentClient.Text
