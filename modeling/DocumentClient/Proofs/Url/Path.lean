import DocumentClient.Proofs.Text
import DocumentClient.Proofs.Text.Percent
import DocumentClient.Url.Path

namespace DocumentClient.Url

open Text

theorem dropBreaks_of_forall {s : List Char} (h : ∀ c ∈ s, isLineBreak c = false) :
    dropBreaks s = s :=
  List.filter_eq_self.2 fun c hc => by simp [h c hc]

namespace Path

theorem toLower_of_le {c : Char} (h : 128 ≤ c.toNat) : c.toLower = c := by
  refine dif_neg fun hc => ?_
  have hle : c.val.toNat ≤ 90 := UInt32.le_iff_toNat_le.1 hc.2
  have hval : c.toNat = c.val.toNat := rfl
  omega

theorem toLower_dotChars : ∀ n < 128,
    (['.', '%', '2'].all fun d => (Char.ofNat n).toLower = d → Char.ofNat n = d) = true ∧
      ((Char.ofNat n).toLower = 'e' → hexValue (Char.ofNat n) = some 14) := by decide

theorem eq_of_toLower_eq {c d : Char} (hd : d ∈ ['.', '%', '2']) (h : c.toLower = d) : c = d := by
  by_cases hc : c.toNat < 128
  · have hall := List.all_eq_true.1 (toLower_dotChars c.toNat hc).1 d hd
    rw [Char.ofNat_toNat] at hall
    exact of_decide_eq_true hall h
  · rwa [toLower_of_le (by omega)] at h

theorem hexValue_of_toLower_eq_e {c : Char} (h : c.toLower = 'e') : hexValue c = some 14 := by
  by_cases hc : c.toNat < 128
  · simpa using (toLower_dotChars c.toNat hc).2 (by simpa using h)
  · rw [toLower_of_le (by omega)] at h
    subst h
    rfl

def dotForms : List (List Char) := [['.'], ['%', '2', 'e']]

theorem decode_dotForm_append {s : List Char} (h : s.map Char.toLower ∈ dotForms)
    (rest : List Char) :
    Percent.decode (s ++ rest) = Percent.bytes ['.'] ++ Percent.decode rest := by
  simp only [dotForms, List.mem_cons, List.not_mem_nil, or_false] at h
  rcases h with h | h
  · obtain ⟨c, rfl, hc⟩ := List.map_eq_singleton_iff.1 h
    rw [eq_of_toLower_eq (by simp) hc]
    rfl
  · obtain ⟨a, s, rfl, ha, h⟩ := List.map_eq_cons_iff.1 h
    obtain ⟨b, s, rfl, hb, h⟩ := List.map_eq_cons_iff.1 h
    obtain ⟨c, rfl, hc⟩ := List.map_eq_singleton_iff.1 h
    have ha : a = '%' := eq_of_toLower_eq (by simp) ha
    have hb : b = '2' := eq_of_toLower_eq (by simp) hb
    have htwo : hexValue '2' = some 2 := rfl
    subst ha hb
    simp [Percent.decode, htwo, hexValue_of_toLower_eq_e hc, Percent.bytes]
    rfl

theorem map_toLower_of_isDot {s : List Char} (h : isDot s = true) :
    s.map Char.toLower ∈ dotForms := by
  simp only [isDot, Bool.or_eq_true, decide_eq_true_eq] at h
  rcases h with rfl | h
  · decide
  · rw [h]
    decide

theorem exists_dotForms_of_isDoubleDot {s : List Char} (h : isDoubleDot s = true) :
    ∃ t u, s = t ++ u ∧ t.map Char.toLower ∈ dotForms ∧ u.map Char.toLower ∈ dotForms := by
  obtain ⟨x, hx, y, hy, hs⟩ : ∃ x ∈ dotForms, ∃ y ∈ dotForms, s.map Char.toLower = x ++ y := by
    simp only [isDoubleDot, List.contains_eq_mem, decide_eq_true_eq, List.mem_cons,
      List.not_mem_nil, or_false] at h
    simp only [dotForms, List.mem_cons, List.not_mem_nil, or_false, exists_eq_or_imp,
      exists_eq_left]
    rcases h with h | h | h | h
    · exact Or.inl (Or.inl h)
    · exact Or.inl (Or.inr h)
    · exact Or.inr (Or.inl h)
    · exact Or.inr (Or.inr h)
  obtain ⟨t, u, rfl, rfl, rfl⟩ := List.map_eq_append_iff.1 hs
  exact ⟨t, u, rfl, hx, hy⟩

theorem decode_of_isDot {s : List Char} (h : isDot s = true) :
    Percent.decode s = Percent.bytes ['.'] := by
  have hdecode := decode_dotForm_append (map_toLower_of_isDot h) []
  rwa [List.append_nil] at hdecode

theorem decode_of_isDoubleDot {s : List Char} (h : isDoubleDot s = true) :
    Percent.decode s = Percent.bytes ['.', '.'] := by
  obtain ⟨t, u, rfl, ht, hu⟩ := exists_dotForms_of_isDoubleDot h
  have hdecode := decode_dotForm_append hu []
  rw [List.append_nil] at hdecode
  rw [decode_dotForm_append ht, hdecode]
  rfl

section

variable {set : Char → Bool} {s : List Char}

/-- An escape for a dot is not taken for one if the percent sign in it is encoded. -/
theorem eq_of_isDot_encode (hpercent : set '%' = true)
    (h : isDot (Percent.encode set s) = true) : s = ['.'] := by
  apply Percent.bytes_injective
  rw [← Percent.decode_encode hpercent, decode_of_isDot h]

theorem eq_of_isDoubleDot_encode (hpercent : set '%' = true)
    (h : isDoubleDot (Percent.encode set s) = true) : s = ['.', '.'] := by
  apply Percent.bytes_injective
  rw [← Percent.decode_encode hpercent, decode_of_isDoubleDot h]

end

def Closes (s : List Char) : Prop := ∀ c ∈ s.getLast?, c = '/'

theorem Closes.of_suffix {s t : List Char} (h : Closes s) (hsuffix : t <:+ s) : Closes t := by
  obtain ⟨before, rfl⟩ := hsuffix
  intro c hc
  apply h c
  rw [List.getLast?_append, Option.mem_def.1 hc]
  rfl

theorem Closes.eq_nil_or_concat {s : List Char} (h : Closes s) : s = [] ∨ ∃ t, s = t ++ ['/'] := by
  rcases List.eq_nil_or_concat s with rfl | ⟨t, c, rfl⟩
  · exact Or.inl rfl
  · obtain rfl : c = '/' := h c (by simp)
    exact Or.inr ⟨t, List.concat_eq_append⟩

theorem Closes.filter {s : List Char} (h : Closes s) {p : Char → Bool} (hp : p '/' = true) :
    Closes (s.filter p) := by
  rcases h.eq_nil_or_concat with rfl | ⟨t, rfl⟩
  · exact h
  · intro c hc
    simpa [hp, eq_comm] using hc

theorem Closes.strip {s : List Char} (h : Closes s) {p : Char → Bool} (hp : p '/' = false) :
    Closes (strip p s) := by
  have hdrop : Closes (s.dropWhile p) := h.of_suffix (List.dropWhile_suffix p)
  have hhead : ∀ c ∈ (s.dropWhile p).reverse.head?, p c = false := by
    intro c hc
    rw [hdrop c (by simpa using hc)]
    exact hp
  rwa [Text.strip, dropWhile_eq_self hhead, List.reverse_reverse]

theorem takeWhile_append_slash {s : List Char} (h : '/' ∉ s) (rest : List Char) :
    (s ++ '/' :: rest).takeWhile (· ≠ '/') = s := by
  have hall : ∀ c ∈ s, decide (c ≠ '/') = true := by
    intro c hc
    have hne : c ≠ '/' := fun e => h (e ▸ hc)
    simpa using hne
  rw [List.takeWhile_append_of_pos hall]
  simp

theorem slash_not_mem_lastSegment (s : List Char) : '/' ∉ lastSegment s := by
  intro h
  have hall := List.all_takeWhile (p := (· ≠ '/')) (l := s.reverse)
  rw [lastSegment, List.mem_reverse] at h
  simpa using List.all_eq_true.1 hall '/' h

theorem rooted_upToSlash {s : List Char} (h : s.head? = some '/') :
    (upToSlash s).head? = some '/' := by
  have happend := upToSlash_append_lastSegment s
  cases hup : upToSlash s with
  | nil =>
    have hlast : lastSegment s = s := by simpa [hup] using happend
    refine absurd ?_ (slash_not_mem_lastSegment s)
    rw [hlast]
    exact List.mem_of_mem_head? h
  | cons c t =>
    rw [hup, List.cons_append] at happend
    rw [← happend] at h
    exact h

theorem rooted_reopen {s : List Char} (h : s.head? = some '/') : (reopen s).head? = some '/' := by
  simp only [reopen]
  split
  · next hs =>
    cases s with
    | nil => exact h
    | cons c t =>
      cases t with
      | nil => simp at hs
      | cons d t => exact h
  · exact h

theorem rooted_close {s : List Char} (h : s.head? = some '/') :
    (close s).head? = some '/' := by
  rw [close]
  split
  · exact h
  · rw [List.head?_append, h, Option.some_or]

theorem closed_close {s : List Char} (h : s ≠ []) : (close s).getLast? = some '/' := by
  rw [close]
  split
  · next hend =>
    rw [endsInSlash, List.getLast?_eq_some_getLast h] at hend
    rw [List.getLast?_eq_some_getLast h]
    simpa using hend
  · simp

namespace Walk

theorem rooted_enter {w : Walk} (h : w.text.head? = some '/') (s : List Char) (closed : Bool) :
    (w.enter .special s closed).text.head? = some '/' := by
  have hadd : (w.add s closed).text.head? = some '/' := by
    simp [add, List.head?_append, h]
  rw [enter]
  split
  · have hpop : (pop .special (reopen w.text)).head? = some '/' :=
      rooted_upToSlash (rooted_reopen h)
    cases closed with
    | false => exact hpop
    | true => exact rooted_close hpop
  · split
    · exact rooted_close h
    · simpa using hadd

theorem closed_enter {w : Walk} (h : w.text.head? = some '/') (s : List Char) :
    (w.enter .special s true).text.getLast? = some '/' := by
  have hne : ∀ t : List Char, t.head? = some '/' → t ≠ [] := by
    rintro _ ht rfl
    cases ht
  rw [enter]
  split
  · exact closed_close (hne _ (rooted_upToSlash (rooted_reopen h)))
  · split
    · exact closed_close (hne _ h)
    · simp [add]

theorem step_special (set : Char → Bool) (w : Walk) (raw : List Char) (closed : Bool) :
    w.step .special set raw closed =
      w.enter .special (Percent.encode set (dropBreaks raw)) closed := by
  simp [step]

theorem steps_cons (kind : Kind) (w : Walk) (s : List Char) {rest : List (List Char)}
    (h : rest ≠ []) :
    w.steps kind (s :: rest) = (w.step kind inPath s true).steps kind rest := by
  cases rest with
  | nil => exact absurd rfl h
  | cons t ts => rfl

theorem rooted_steps {w : Walk} (h : w.text.head? = some '/') (segments : List (List Char)) :
    (w.steps .special segments).text.head? = some '/' := by
  induction segments generalizing w with
  | nil => exact h
  | cons s rest ih =>
    cases rest with
    | nil =>
      rw [steps, step_special]
      exact rooted_enter h _ _
    | cons t ts =>
      rw [steps_cons .special w s (by simp), step_special]
      exact ih (rooted_enter h _ _)

theorem closed_steps {w : Walk} (hroot : w.text.head? = some '/')
    (hend : w.text.getLast? = some '/') (segments : List (List Char)) :
    (w.steps .special (segments ++ [[]])).text.getLast? = some '/' := by
  induction segments generalizing w with
  | nil =>
    have hempty : w.enter .special [] false = w := by
      simp [enter, isDoubleDot, isDot, add]
    rw [List.nil_append, steps, step_special]
    simpa [dropBreaks, Percent.encode, hempty] using hend
  | cons s rest ih =>
    rw [List.cons_append, steps_cons .special w s (by simp), step_special]
    exact ih (rooted_enter hroot _ _) (closed_enter hroot _)

end Walk

theorem read_special (done s : List Char) :
    read .special done s =
      Walk.steps .special { text := done } (s.splitOnP (isSlash .special)) := by
  simp [read, Walk.trimRoot]

theorem rooted_read {done : List Char} (h : done.head? = some '/') (s : List Char) :
    (read .special done s).text.head? = some '/' := by
  rw [read_special]
  exact Walk.rooted_steps h _

theorem closed_read {done s : List Char} (hroot : done.head? = some '/')
    (hend : done.getLast? = some '/') (hs : Closes s) :
    (read .special done s).text.getLast? = some '/' := by
  obtain ⟨segments, hsplit⟩ :
      ∃ segments, s.splitOnP (isSlash .special) = segments ++ [[]] := by
    rcases hs.eq_nil_or_concat with rfl | ⟨t, rfl⟩
    · exact ⟨[], rfl⟩
    · have hslash : isSlash .special '/' = true := by decide
      exact ⟨_, List.splitOnP_append_cons t [] hslash⟩
  rw [read_special, hsplit]
  exact Walk.closed_steps hroot hend segments

end Path

end DocumentClient.Url
