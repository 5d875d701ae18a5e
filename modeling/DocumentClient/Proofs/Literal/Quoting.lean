import DocumentClient.Proofs.Literal.Reading

/-!
Lists whose items are written in quotes.  The marks at both ends of the whole text go first, those
of the first and of the last item among them, and an item is read when its own marks are gone.
-/

namespace DocumentClient

open Text

theorem Text.intercalate_append_cons {α : Type} (c : α) (pre a : List α) (mid : List (List α)) :
    [c].intercalate ((pre ++ a) :: mid) = pre ++ [c].intercalate (a :: mid) := by
  cases mid <;> simp

theorem Text.intercalate_concat {α : Type} (c : α) (a b : List α) (mid : List (List α)) :
    [c].intercalate (a :: (mid ++ [b])) = [c].intercalate (a :: mid) ++ c :: b := by
  induction mid generalizing a with
  | nil => simp
  | cons m mid ih => simp [ih]

namespace Literal

def FitsInt64 (s : List Char) : Prop := IsNumeral s ∧ ofDigits s < Nat.pow 2 63

instance (s : List Char) : Decidable (FitsInt64 s) :=
  inferInstanceAs (Decidable (IsNumeral s ∧ _))

def IsPlain (s : List Char) : Prop := ∀ c ∈ s, isBlank c = false ∧ isQuoteMark c = false ∧ c ≠ ','

instance (s : List Char) : Decidable (IsPlain s) := List.decidableBAll _ s

def quoted (s : List Char) : List Char := '\x27' :: (s ++ ['\x27'])

def quotedList (texts : List (List Char)) : List Char :=
  '(' :: ([','].intercalate (texts.map quoted) ++ [')'])

def withoutEmptyHead : List (List Char) → List (List Char)
  | [] :: texts => texts
  | texts => texts

def withoutEmptyEnds (texts : List (List Char)) : List (List Char) :=
  (withoutEmptyHead (withoutEmptyHead texts).reverse).reverse

theorem withoutEmptyEnds_singleton (t : List Char) :
    withoutEmptyEnds [t] = [t].filter (· ≠ []) := by
  cases t <;> rfl

theorem withoutEmptyEnds_ends (t u : List Char) (mid : List (List Char)) :
    withoutEmptyEnds (t :: (mid ++ [u])) = [t].filter (· ≠ []) ++ mid ++ [u].filter (· ≠ []) := by
  cases t <;> cases u <;> simp [withoutEmptyEnds, withoutEmptyHead]

end Literal

def ListItem.ofPlain (s : List Char) : ListItem :=
  if Literal.FitsInt64 s then .int (Int64.ofNat (ofDigits s)) else .text (String.ofList s)

namespace Literal

section

variable {s t u pre post : List Char} {mid : List (List Char)}

theorem not_isBlank_of_isQuoteMark {c : Char} (h : isQuoteMark c = true) : isBlank c = false := by
  simp only [isQuoteMark, Bool.or_eq_true, decide_eq_true_eq] at h
  rcases h with ((rfl | rfl) | rfl) | rfl <;> rfl

theorem IsPlain.stripsTo (h : IsPlain s) (pre post : List Char)
    (hpre : ∀ c ∈ pre, isQuoteMark c = true) (hpost : ∀ c ∈ post, isQuoteMark c = true) :
    StripsTo isQuoteMark (pre ++ s ++ post) s :=
  ⟨stripped_of_forall fun c hc => (h c hc).2.1, pre, post, hpre, hpost, rfl⟩

theorem IsPlain.coerce_item (h : IsPlain s) (pre post : List Char)
    (hpre : ∀ c ∈ pre, isQuoteMark c = true) (hpost : ∀ c ∈ post, isQuoteMark c = true) :
    ListItem.coerce (pre ++ s ++ post) = ListItem.ofPlain s := by
  have hblank : ∀ c ∈ pre ++ s ++ post, isBlank c = false := by
    intro c hc
    rcases List.mem_append.1 hc with hc | hc
    · rcases List.mem_append.1 hc with hc | hc
      · exact not_isBlank_of_isQuoteMark (hpre c hc)
      · exact (h c hc).1
    · exact not_isBlank_of_isQuoteMark (hpost c hc)
  have htrim : StripsTo isBlank (pre ++ s ++ post) (pre ++ s ++ post) :=
    strip_eq_iff.1 (stripped_of_forall hblank).strip_eq
  have hstrip := h.stripsTo pre post hpre hpost
  rw [ListItem.coerce_eq_iff, ListItem.ofPlain]
  split
  · next hfits =>
    exact .int htrim hstrip hfits.1 (Int64.toInt_ofNat_of_lt hfits.2)
  · next hfits =>
    exact .text htrim hstrip fun hs => Nat.not_lt.1 fun hlt => hfits ⟨hs, hlt⟩

theorem pieces_intercalate {texts : List (List Char)} (hne : texts ≠ [])
    (h : ∀ t ∈ texts, ',' ∉ t) :
    pieces ([','].intercalate texts) = texts.filter (!·.all isBlank) := by
  rw [pieces, List.splitOn_intercalate ',' h hne]

def endPiece (pre t post : List Char) : List Char := if t = [] then [] else pre ++ t ++ post

theorem exists_quoted_eq_first (t : List Char) :
    ∃ pre, (∀ c ∈ pre, isQuoteMark c = true) ∧ quoted t = pre ++ endPiece [] t ['\x27'] := by
  by_cases ht : t = []
  · exact ⟨['\x27', '\x27'], by simp [isQuoteMark], by simp [quoted, endPiece, ht]⟩
  · exact ⟨['\x27'], by simp [isQuoteMark], by simp [quoted, endPiece, ht]⟩

theorem exists_quoted_eq_last (u : List Char) :
    ∃ post, (∀ c ∈ post, isQuoteMark c = true) ∧ quoted u = endPiece ['\x27'] u [] ++ post := by
  by_cases hu : u = []
  · exact ⟨['\x27', '\x27'], by simp [isQuoteMark], by simp [quoted, endPiece, hu]⟩
  · exact ⟨['\x27'], by simp [isQuoteMark], by simp [quoted, endPiece, hu]⟩

theorem IsPlain.stripped_ends (ht : IsPlain t) (hu : IsPlain u) :
    Stripped isQuoteMark
      ([','].intercalate (endPiece [] t ['\x27'] :: (mid ++ [endPiece ['\x27'] u []]))) where
  -- Where an end is empty the text starts or ends at the comma beside it, which is no mark.
  head := by
    have hrest : mid ++ [endPiece ['\x27'] u []] ≠ [] := by simp
    rw [List.intercalate_cons_of_ne_nil hrest]
    cases t with
    | nil => simp [endPiece, isQuoteMark]
    | cons c t => simpa [endPiece] using (ht c List.mem_cons_self).2.1
  last := by
    rw [intercalate_concat]
    cases hlast : u.getLast? with
    | none =>
      obtain rfl := List.getLast?_eq_none_iff.1 hlast
      simp [endPiece, isQuoteMark]
    | some c =>
      have hne : u ≠ [] := by
        rintro rfl
        cases hlast
      have hc : isQuoteMark c = false := (hu c (List.mem_of_getLast? hlast)).2.1
      simpa [endPiece, hne, List.getLast?_cons, hlast] using hc

theorem stripQuotes_quotedList (ht : IsPlain t) (hu : IsPlain u) :
    stripQuotes (quotedList (t :: (mid ++ [u]))) =
      [','].intercalate
        (endPiece [] t ['\x27'] :: (mid.map quoted ++ [endPiece ['\x27'] u []])) := by
  obtain ⟨pre, hpre, hfirst⟩ := exists_quoted_eq_first t
  obtain ⟨post, hpost, hlast⟩ := exists_quoted_eq_last u
  refine StripsTo.strip_eq ⟨ht.stripped_ends hu, '(' :: pre, post ++ [')'], ?_, ?_, ?_⟩
  · simpa [isQuoteMark] using hpre
  · simpa [or_imp, forall_and, isQuoteMark] using hpost
  · rw [quotedList, List.map_cons, List.map_append, List.map_singleton, hfirst, hlast,
      intercalate_append_cons, intercalate_concat, intercalate_concat]
    simp

theorem IsPlain.coerce_endPiece (h : IsPlain t) (hpre : ∀ c ∈ pre, isQuoteMark c = true)
    (hpost : ∀ c ∈ post, isQuoteMark c = true) :
    ([endPiece pre t post].filter (!·.all isBlank)).map ListItem.coerce =
      ([t].filter (· ≠ [])).map ListItem.ofPlain := by
  cases t with
  | nil => rfl
  | cons d t =>
    have hkeep : (pre ++ d :: t ++ post).all isBlank = false := by
      simp [(h d List.mem_cons_self).1]
    have hitem := h.coerce_item pre post hpre hpost
    rw [endPiece, if_neg (List.cons_ne_nil d t), List.filter_cons, hkeep]
    exact congrArg (· :: []) hitem

theorem coerce_quoted (hmid : ∀ m ∈ mid, IsPlain m) :
    ((mid.map quoted).filter (!·.all isBlank)).map ListItem.coerce =
      mid.map ListItem.ofPlain := by
  have hkeep : ∀ s ∈ mid.map quoted, (!s.all isBlank) = true := by
    intro s hs
    obtain ⟨m, -, rfl⟩ := List.mem_map.1 hs
    rfl
  rw [List.filter_eq_self.2 hkeep, List.map_map]
  refine List.map_congr_left fun m hm => ?_
  exact (hmid m hm).coerce_item ['\x27'] ['\x27'] (by simp [isQuoteMark]) (by simp [isQuoteMark])

theorem comma_not_mem_quoted (h : IsPlain s) : ',' ∉ quoted s := by
  intro hc
  simp only [quoted, List.mem_cons, List.mem_append, List.not_mem_nil, or_false] at hc
  rcases hc with hc | hc | hc
  · cases hc
  · exact (h ',' hc).2.2 rfl
  · cases hc

theorem coerceList_quotedList_singleton (ht : IsPlain t) :
    coerceList (quotedList [t]) = (withoutEmptyEnds [t]).map ListItem.ofPlain := by
  have htext : endPiece [] t [] = t := by cases t <;> simp [endPiece]
  have hcomma : ∀ s ∈ [endPiece [] t []], ',' ∉ s := by
    simpa [htext] using fun hc => (ht ',' hc).2.2 rfl
  have hstrip : stripQuotes (quotedList [t]) = [','].intercalate [endPiece [] t []] := by
    have h := ht.stripsTo ['(', '\x27'] ['\x27', ')'] (by simp [isQuoteMark]) (by simp [isQuoteMark])
    rw [List.intercalate_singleton, htext]
    exact StripsTo.strip_eq (by simpa [quotedList, quoted] using h)
  rw [coerceList_eq, hstrip, pieces_intercalate (by simp) hcomma, withoutEmptyEnds_singleton,
    ht.coerce_endPiece (by simp) (by simp)]

theorem coerceList_quotedList_ends (ht : IsPlain t) (hu : IsPlain u)
    (hmid : ∀ m ∈ mid, IsPlain m) :
    coerceList (quotedList (t :: (mid ++ [u]))) =
      (withoutEmptyEnds (t :: (mid ++ [u]))).map ListItem.ofPlain := by
  have hcomma : ∀ s ∈ endPiece [] t ['\x27'] :: (mid.map quoted ++ [endPiece ['\x27'] u []]),
      ',' ∉ s := by
    intro s hs hc
    obtain ⟨v, hv, hc⟩ : ∃ v, IsPlain v ∧ ',' ∈ quoted v := by
      simp only [List.mem_cons, List.mem_append, List.mem_map, List.not_mem_nil, or_false] at hs
      rcases hs with rfl | ⟨m, hm, rfl⟩ | rfl
      · obtain ⟨pre, -, hpre⟩ := exists_quoted_eq_first t
        exact ⟨t, ht, by simp [hpre, hc]⟩
      · exact ⟨m, hmid m hm, hc⟩
      · obtain ⟨post, -, hpost⟩ := exists_quoted_eq_last u
        exact ⟨u, hu, by simp [hpost, hc]⟩
    exact comma_not_mem_quoted hv hc
  have hcut : endPiece [] t ['\x27'] :: (mid.map quoted ++ [endPiece ['\x27'] u []]) =
      [endPiece [] t ['\x27']] ++ mid.map quoted ++ [endPiece ['\x27'] u []] := by simp
  rw [coerceList_eq, stripQuotes_quotedList ht hu, pieces_intercalate (by simp) hcomma, hcut,
    withoutEmptyEnds_ends]
  rw [List.filter_append, List.filter_append, List.map_append, List.map_append,
    ht.coerce_endPiece (by simp) (by simp [isQuoteMark]), hu.coerce_endPiece (by simp [isQuoteMark]) (by simp),
    coerce_quoted hmid, List.map_append, List.map_append]

theorem coerceList_quotedList {texts : List (List Char)} (hne : texts ≠ [])
    (h : ∀ t ∈ texts, IsPlain t) :
    coerceList (quotedList texts) = (withoutEmptyEnds texts).map ListItem.ofPlain := by
  obtain ⟨t, rest, rfl⟩ := List.exists_cons_of_ne_nil hne
  rcases rest.eq_nil_or_concat with rfl | ⟨mid, u, rfl⟩
  · exact coerceList_quotedList_singleton (h t (by simp))
  · simp only [List.concat_eq_append] at h ⊢
    exact coerceList_quotedList_ends (h t (by simp)) (h u (by simp)) fun m hm => h m (by simp [hm])

end

section

variable {texts : List (List Char)}

theorem withoutEmptyHead_sublist (texts : List (List Char)) :
    (withoutEmptyHead texts).Sublist texts := by
  rcases texts with _ | ⟨_ | ⟨c, t⟩, texts⟩
  · exact List.Sublist.refl _
  · exact List.sublist_cons_self _ _
  · exact List.Sublist.refl _

theorem withoutEmptyHead_eq_self_iff : withoutEmptyHead texts = texts ↔ texts.head? ≠ some [] := by
  rcases texts with _ | ⟨_ | ⟨c, t⟩, texts⟩ <;> simp [withoutEmptyHead]

theorem withoutEmptyEnds_sublist (texts : List (List Char)) :
    (withoutEmptyEnds texts).Sublist (withoutEmptyHead texts) := by
  rw [withoutEmptyEnds, List.reverse_sublist.symm, List.reverse_reverse]
  exact withoutEmptyHead_sublist _

theorem withoutEmptyEnds_eq_self_iff :
    withoutEmptyEnds texts = texts ↔ texts.head? ≠ some [] ∧ texts.getLast? ≠ some [] := by
  rw [← List.head?_reverse, ← withoutEmptyHead_eq_self_iff, ← withoutEmptyHead_eq_self_iff]
  constructor
  · intro h
    have hhead : withoutEmptyHead texts = texts := by
      refine (withoutEmptyHead_sublist texts).eq_of_length_le ?_
      exact (congrArg List.length h).symm.trans_le (withoutEmptyEnds_sublist texts).length_le
    refine ⟨hhead, ?_⟩
    rw [withoutEmptyEnds, hhead] at h
    exact List.reverse_eq_iff.1 h
  · rintro ⟨hhead, hlast⟩
    rw [withoutEmptyEnds, hhead, hlast, List.reverse_reverse]

theorem ofPlain_eq_text_iff {s : List Char} :
    ListItem.ofPlain s = .text (String.ofList s) ↔ ¬ FitsInt64 s := by
  rw [ListItem.ofPlain]
  split <;> simp_all

theorem map_ofPlain_withoutEmptyEnds_iff :
    (withoutEmptyEnds texts).map ListItem.ofPlain = texts.map (fun t => .text (String.ofList t)) ↔
      texts.head? ≠ some [] ∧ texts.getLast? ≠ some [] ∧ ∀ t ∈ texts, ¬ FitsInt64 t := by
  simp only [← and_assoc, ← withoutEmptyEnds_eq_self_iff, ← ofPlain_eq_text_iff,
    ← List.map_inj_left]
  constructor
  · intro h
    have hlength : (withoutEmptyEnds texts).length = texts.length := by
      simpa using congrArg List.length h
    have hself : withoutEmptyEnds texts = texts :=
      ((withoutEmptyEnds_sublist texts).trans (withoutEmptyHead_sublist texts)).eq_of_length hlength
    exact ⟨hself, by rwa [hself] at h⟩
  · rintro ⟨hself, h⟩
    rwa [hself]

theorem coerce_quotedList {op : Operator} (hop : op.takesList = true) (hne : texts ≠ [])
    (h : ∀ t ∈ texts, IsPlain t) :
    coerce (quotedList texts) (some op) =
      .list ((withoutEmptyEnds texts).map ListItem.ofPlain) := by
  rw [coerce, quotedList, Shape.of_not_digit rfl, ← quotedList, coerceList_quotedList hne h]
  simp [hop]

theorem coerce_quoted_text {s : List Char} {op : Option Operator} (h : IsPlain s)
    (hop : op.any Operator.takesList = false) :
    coerce (quoted s) op = .text (String.ofList s) := by
  have hstrip := h.stripsTo ['\x27'] ['\x27'] (by simp [isQuoteMark]) (by simp [isQuoteMark])
  rw [coerce, quoted, Shape.of_not_digit rfl, stripQuotes, StripsTo.strip_eq (s := s)]
  · simp [hop]
  · simpa using hstrip

/-- In a list quotes do not keep digits from being a number, and empty items are lost at both ends;
text that stands alone is kept as it is. -/
theorem coerce_quotes {op : Operator} (hop : op.takesList = true) (hne : texts ≠ [])
    (h : ∀ t ∈ texts, IsPlain t) :
    coerce (quotedList texts) (some op) =
        .list ((withoutEmptyEnds texts).map ListItem.ofPlain) ∧
      (coerce (quotedList texts) (some op) = .list (texts.map fun t => .text (String.ofList t)) ↔
        texts.head? ≠ some [] ∧ texts.getLast? ≠ some [] ∧ ∀ t ∈ texts, ¬ FitsInt64 t) ∧
      ∀ (s : List Char) (op : Option Operator), IsPlain s → op.any Operator.takesList = false →
        coerce (quoted s) op = .text (String.ofList s) := by
  refine ⟨coerce_quotedList hop hne h, ?_, fun s op hs => coerce_quoted_text hs⟩
  rw [coerce_quotedList hop hne h, Literal.list.injEq, map_ofPlain_withoutEmptyEnds_iff]

theorem coerce_quotes_digits :
    let texts := ["", "x", "", "9223372036854775808", "007"].map String.toList
    Operator.takesList .notIn = true ∧ texts ≠ [] ∧ (∀ t ∈ texts, IsPlain t) ∧
      quotedList texts = "('','x','','9223372036854775808','007')".toList ∧
      coerce (quotedList texts) (some .notIn) =
        .list [.text "x", .text "", .text "9223372036854775808", .int 7] ∧
      coerce (quoted "007".toList) (some .equal) = .text "007" := by
  intro texts
  have hne : texts ≠ [] := by simp [texts]
  have hplain : ∀ t ∈ texts, IsPlain t := by decide +kernel
  have hop : Operator.takesList .notIn = true := rfl
  obtain ⟨hlist, -, htext⟩ := coerce_quotes hop hne hplain
  refine ⟨hop, hne, hplain, by decide +kernel, hlist.trans (by decide +kernel), ?_⟩
  exact htext _ (some .equal) (by decide +kernel) rfl

theorem not_forall_coerce_quotedList :
    ¬ ∀ (texts : List (List Char)) (op : Operator), texts ≠ [] → (∀ t ∈ texts, IsPlain t) →
      op.takesList = true →
      coerce (quotedList texts) (some op) = .list (texts.map fun t => .text (String.ofList t)) := by
  intro hall
  have htext : coerce "('','007')".toList (some .oneOf) = .list [.text "", .text "007"] :=
    hall [[], "007".toList] .oneOf (by simp) (by decide +kernel) rfl
  have hint : coerce "('','007')".toList (some .oneOf) = .list [.int 7] := by decide +kernel
  rw [hint] at htext
  simp at htext

end

end Literal

end DocumentClient
