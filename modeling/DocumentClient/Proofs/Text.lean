import DocumentClient.Text.Blank
import DocumentClient.Text.LetterCase
import Mathlib.Data.List.TakeWhile

namespace DocumentClient.Text

/-- The texts that can follow another without adding to its last word. -/
def StartsBlank (s : List Char) : Prop := ∀ c ∈ s.head?, isBlank c = true

theorem startsBlank_cons {c : Char} {s : List Char} :
    StartsBlank (c :: s) ↔ isBlank c = true := by simp [StartsBlank]

theorem words_append {s r : List Char} (h : StartsBlank r) :
    words (s ++ r) = words s ++ words r := by
  cases r with
  | nil => simp [words]
  | cons c r =>
    have hc := startsBlank_cons.1 h
    have hr : words (c :: r) = words r := by
      simp [words, List.splitOnP_cons_eq_if_modifyHead, hc]
    rw [hr, words, List.splitOnP_append_cons _ _ hc, List.filter_append]
    rfl

def blankCodes : List Nat :=
  [0x9, 0xA, 0xB, 0xC, 0xD, 0x20, 0x85, 0xA0, 0x1680, 0x2000, 0x2001, 0x2002, 0x2003, 0x2004,
    0x2005, 0x2006, 0x2007, 0x2008, 0x2009, 0x200A, 0x2028, 0x2029, 0x202F, 0x205F, 0x3000]

theorem mem_blankCodes {c : Char} (h : isBlank c = true) : c.toNat ∈ blankCodes := by
  simp only [isBlank, Bool.or_eq_true, Bool.and_eq_true, beq_iff_eq, decide_eq_true_eq] at h
  simp only [blankCodes, List.mem_cons, List.not_mem_nil, or_false]
  omega

namespace LetterCase

theorem blank_caseless {c : Char} (h : isBlank c = true) :
    c ≠ 'Σ' ∧ isCased c = false ∧ isCaseIgnorable c = false ∧ small c = [c] := by
  -- There are few blanks, so the tables of letters can be asked about each.
  have table : ∀ n ∈ blankCodes, Char.ofNat n ≠ 'Σ' ∧ isCased (Char.ofNat n) = false ∧
      isCaseIgnorable (Char.ofNat n) = false ∧ small (Char.ofNat n) = [Char.ofNat n] := by
    decide +kernel
  simpa using table c.toNat (mem_blankCodes h)

theorem nextIsCased_append {r : List Char} (h : StartsBlank r) (s : List Char) :
    nextIsCased (s ++ r) = nextIsCased s := by
  induction s with
  | nil =>
    cases r with
    | nil => rfl
    | cons c r =>
      obtain ⟨-, hcased, hignorable, -⟩ := blank_caseless (startsBlank_cons.1 h)
      simp [nextIsCased, hcased, hignorable]
  | cons d s ih =>
    cases hd : isCaseIgnorable d with
    | true => simpa [nextIsCased, hd] using ih
    | false => simp [nextIsCased, hd]

theorem lowerAfter_append {r : List Char} (h : StartsBlank r) (before s : List Char) :
    lowerAfter before (s ++ r) = lowerAfter before s ++ lowerAfter (s.reverse ++ before) r := by
  induction s generalizing before with
  | nil => rfl
  | cons c s ih =>
    rw [List.cons_append, lowerAfter, lowerAfter, nextIsCased_append h, ih, List.append_assoc,
      List.reverse_cons, List.append_assoc, List.singleton_append]

theorem startsBlank_lowerAfter {r : List Char} (h : StartsBlank r) (before : List Char) :
    StartsBlank (lowerAfter before r) := by
  cases r with
  | nil => exact h
  | cons c r =>
    obtain ⟨hsigma, -, -, hsmall⟩ := blank_caseless (startsBlank_cons.1 h)
    rw [lowerAfter, if_neg hsigma, hsmall]
    exact startsBlank_cons.2 (startsBlank_cons.1 h)

end LetterCase

theorem lowercase_append {s r : List Char} (h : StartsBlank r) :
    ∃ r', StartsBlank r' ∧ lowercase (s ++ r) = lowercase s ++ r' := by
  refine ⟨LetterCase.lowerAfter s.reverse r, LetterCase.startsBlank_lowerAfter h _, ?_⟩
  rw [lowercase, LetterCase.lowerAfter_append h, List.append_nil]
  rfl

theorem of_mem_intercalate {c d : Char} {texts : List (List Char)}
    (h : d ∈ [c].intercalate texts) : d = c ∨ ∃ t ∈ texts, d ∈ t := by
  induction texts with
  | nil => simp at h
  | cons t ts ih =>
    cases ts with
    | nil => exact Or.inr ⟨t, by simp, by simpa using h⟩
    | cons u us =>
      rw [List.intercalate_cons_cons, List.append_assoc, List.singleton_append, List.mem_append,
        List.mem_cons] at h
      rcases h with h | h | h
      · exact Or.inr ⟨t, by simp, h⟩
      · exact Or.inl h
      · rcases ih h with hc | ⟨v, hv, hd⟩
        · exact Or.inl hc
        · exact Or.inr ⟨v, by simp [hv], hd⟩

structure Stripped (p : Char → Bool) (s : List Char) : Prop where
  head : ∀ c ∈ s.head?, p c = false
  last : ∀ c ∈ s.getLast?, p c = false

section

variable {p : Char → Bool} {s t : List Char}

theorem stripped_of_forall (h : ∀ c ∈ s, p c = false) : Stripped p s :=
  ⟨fun c hc => h c (List.mem_of_head? hc), fun c hc => h c (List.mem_of_getLast? hc)⟩

theorem dropWhile_eq_self (h : ∀ c ∈ s.head?, p c = false) : s.dropWhile p = s := by
  cases s with
  | nil => rfl
  | cons c s => simp [h c rfl]

theorem dropWhile_append_cons {c : Char} (hc : p c = false) (s t : List Char) :
    (s ++ c :: t).dropWhile p = s.dropWhile p ++ c :: t := by
  induction s with
  | nil => simp [hc]
  | cons d s ih =>
    rw [List.cons_append, List.dropWhile_cons, List.dropWhile_cons, ih]
    split <;> rfl

theorem Stripped.reverse (h : Stripped p s) : Stripped p s.reverse :=
  ⟨by simpa using h.last, by simpa using h.head⟩

theorem Stripped.strip_eq (h : Stripped p s) : strip p s = s := by
  rw [strip, dropWhile_eq_self h.head, dropWhile_eq_self h.reverse.head, List.reverse_reverse]

theorem not_of_mem_head?_dropWhile {c : Char} (h : c ∈ (s.dropWhile p).head?) : p c = false := by
  have hhead := List.head?_dropWhile_not p s
  simpa [Option.mem_def.1 h] using hhead

theorem stripped_strip (p : Char → Bool) (s : List Char) : Stripped p (strip p s) where
  head := by
    intro c hc
    have hprefix : strip p s <+: s.dropWhile p := by
      rw [strip, ← List.reverse_suffix, List.reverse_reverse]
      exact List.dropWhile_suffix p
    obtain ⟨t, ht⟩ := hprefix
    apply not_of_mem_head?_dropWhile (s := s)
    rw [← ht, List.head?_append, Option.mem_def.1 hc]
    rfl
  last := by
    intro c hc
    rw [strip, List.getLast?_reverse] at hc
    exact not_of_mem_head?_dropWhile hc

structure StripsTo (p : Char → Bool) (t s : List Char) : Prop where
  stripped : Stripped p s
  enclosed : ∃ pre post, (∀ c ∈ pre, p c = true) ∧ (∀ c ∈ post, p c = true) ∧
    t = pre ++ s ++ post

theorem StripsTo.mem {c : Char} (h : StripsTo p t s) (hc : c ∈ s) : c ∈ t := by
  obtain ⟨pre, post, -, -, rfl⟩ := h.enclosed
  simp [hc]

theorem StripsTo.strip_eq (h : StripsTo p t s) : strip p t = s := by
  obtain ⟨pre, post, hpre, hpost, rfl⟩ := h.enclosed
  have hhead : (pre ++ s ++ post).dropWhile p = (s ++ post).dropWhile p := by
    rw [List.append_assoc, List.dropWhile_append_of_pos hpre]
  rw [strip, hhead]
  cases s with
  | nil => simp [List.dropWhile_eq_nil_iff.2 hpost]
  | cons c s =>
    have hc : ∀ d ∈ (c :: s ++ post).head?, p d = false := h.stripped.head
    rw [dropWhile_eq_self hc, List.reverse_append,
      List.dropWhile_append_of_pos (by simpa using hpost),
      dropWhile_eq_self h.stripped.reverse.head, List.reverse_reverse]

theorem Stripped.strip_enclosed {a b : Char} (h : Stripped p s) (ha : p a = true)
    (hb : p b = true) : strip p (a :: (s ++ [b])) = s :=
  StripsTo.strip_eq ⟨h, [a], [b], by simpa using ha, by simpa using hb, rfl⟩

theorem stripsTo_strip (p : Char → Bool) (t : List Char) : StripsTo p t (strip p t) where
  stripped := stripped_strip p t
  enclosed := by
    refine ⟨t.takeWhile p, ((t.dropWhile p).reverse.takeWhile p).reverse, ?_, ?_, ?_⟩
    · exact fun c hc => List.mem_takeWhile_imp hc
    · exact fun c hc => List.mem_takeWhile_imp (List.mem_reverse.1 hc)
    · rw [strip, List.append_assoc, ← List.reverse_append, List.takeWhile_append_dropWhile,
        List.reverse_reverse, List.takeWhile_append_dropWhile]

theorem strip_eq_iff : strip p t = s ↔ StripsTo p t s := by
  constructor
  · rintro rfl
    exact stripsTo_strip p t
  · exact StripsTo.strip_eq

theorem Stripped.append (hs : Stripped p s) (ht : Stripped p t) (hsne : s ≠ []) (htne : t ≠ [])
    (mid : List Char) : Stripped p (s ++ mid ++ t) where
  head := by
    obtain ⟨c, s, rfl⟩ := List.exists_cons_of_ne_nil hsne
    exact fun d hd => hs.head d (by simpa using hd)
  last := by
    intro d hd
    have hlast := List.getLast?_eq_some_getLast htne
    rw [List.getLast?_append, hlast, Option.some_or, ← hlast] at hd
    exact ht.last d hd

end

theorem stripped_intercalate {p : Char → Bool} (c : Char) {texts : List (List Char)}
    (h : ∀ t ∈ texts, t ≠ [] ∧ Stripped p t) : Stripped p ([c].intercalate texts) := by
  -- Joined text has to be known not to be empty, or its ends would be those of a comma.
  suffices hall : Stripped p ([c].intercalate texts) ∧
      (texts ≠ [] → [c].intercalate texts ≠ []) from hall.1
  induction texts with
  | nil => exact ⟨⟨by simp, by simp⟩, fun hne => absurd rfl hne⟩
  | cons t ts ih =>
    obtain ⟨htne, ht⟩ := h t (by simp)
    obtain ⟨ihs, ihne⟩ := ih fun u hu => h u (by simp [hu])
    cases ts with
    | nil => exact ⟨by simpa using ht, fun _ => by simpa using htne⟩
    | cons u us =>
      rw [List.intercalate_cons_cons]
      exact ⟨ht.append ihs htne (ihne (by simp)) [c], by simp⟩

end DocumentClient.Text
