import DocumentClient.Proofs.Url.Segments
import Mathlib.Data.List.TakeWhile

namespace DocumentClient.Url

open Text

theorem Reader.scheme?_of_colon_not_mem {s : List Char} (h : ':' ∉ s) : scheme? s = none := by
  rw [scheme?]
  split
  · split
    · next hrest => exact absurd ((List.dropWhile_suffix _).subset (hrest ▸ List.mem_cons_self)) h
    · rfl
  · rfl

structure PlainPath (s : List Char) : Prop where
  head : ∃ c ∈ s.head?, isPlain c = true
  segments : ∃ segments ≠ [], (∀ w ∈ segments, PlainWord w) ∧ s = ['/'].intercalate segments

namespace PlainPath

variable {s : List Char}

theorem eq_slash_or_isPlain (h : PlainPath s) {c : Char} (hc : c ∈ s) :
    c = '/' ∨ isPlain c = true := by
  obtain ⟨segments, -, hplain, rfl⟩ := h.segments
  rcases of_mem_intercalate hc with hslash | ⟨w, hw, hc⟩
  · exact Or.inl hslash
  · exact Or.inr (hplain w hw c hc)

theorem all_of_slash (h : PlainPath s) {p : Char → Bool} (hslash : p '/' = false)
    (hinert : ∀ c, Inert c → p c = false) : ∀ c ∈ s, p c = false := by
  intro c hc
  rcases h.eq_slash_or_isPlain hc with rfl | hplain
  · exact hslash
  · exact hinert c (inert_of_isPlain hplain)

theorem trimmed_eq (h : PlainPath s) : Reader.trimmed s = s :=
  (stripped_of_forall (h.all_of_slash rfl fun _ hc => hc.not_margin)).strip_eq

theorem dropBreaks_eq (h : PlainPath s) : dropBreaks s = s :=
  dropBreaks_of_forall (h.all_of_slash rfl fun _ hc => hc.not_lineBreak)

theorem scheme?_eq (h : PlainPath s) : Reader.scheme? s = none := by
  have hcolon : ∀ c ∈ s, decide (c = ':') = false :=
    h.all_of_slash rfl fun c hc => by simpa using hc.ne_colon
  exact Reader.scheme?_of_colon_not_mem fun hmem => of_decide_eq_false (hcolon ':' hmem) rfl

theorem splitTail_eq (h : PlainPath s) : Reader.splitTail s = (s, []) := by
  have hall : ∀ c ∈ s, (!Reader.isTail c) = true := fun c hc => by
    rw [h.all_of_slash rfl (fun _ hc => hc.not_tail) c hc]
    rfl
  rw [Reader.splitTail, List.takeWhile_eq_self_iff.2 hall, List.dropWhile_eq_nil_iff.2 hall]

theorem read_eq (h : PlainPath s) (done : List Char) :
    (Path.read .special done s).text = done ++ s := by
  obtain ⟨segments, hne, hplain, rfl⟩ := h.segments
  exact Path.read_plain hne hplain done

end PlainPath

def withPathOnly (u : Url) (path : List Char) : Url :=
  { u.onPath path with query := none, fragment := none }

theorem withPathOnly_eq_onPath {u : Url} (hquery : u.query = none) (hfragment : u.fragment = none)
    (path : List Char) : u.withPathOnly path = u.onPath path := by
  unfold withPathOnly onPath
  rw [hquery, hfragment]

theorem IsWeb.relativeStart_eq {base : Url} (h : base.IsWeb) :
    Reader.relativeStart base = Path.upToSlash base.path.toList := by
  have hroot := Path.rooted_upToSlash h.rooted
  unfold Reader.relativeStart
  split
  · next hnil =>
    rw [hnil] at hroot
    cases hroot
  · rfl

theorem IsWeb.settle_eq {base : Url} (h : base.IsWeb) (path : List Char) :
    base.front.settle path = base.front := by
  obtain ⟨a, ha⟩ := h.hasAuthority
  rw [ha]
  rfl

theorem IsWeb.withPath_plain {base : Url} (h : base.IsWeb) {s : List Char} (hs : PlainPath s)
    (done : List Char) : Reader.withPath base done s = base.withPathOnly (done ++ s) := by
  unfold Reader.withPath
  rw [hs.splitTail_eq]
  dsimp only
  rw [h.kind_eq, hs.read_eq, h.settle_eq]
  rfl

theorem IsWeb.relative_plain {base : Url} (h : base.IsWeb) {s : List Char} (hs : PlainPath s) :
    Reader.relative base s =
      .ok (base.withPathOnly (Path.upToSlash base.path.toList ++ s)) := by
  obtain ⟨c, hc, hplain⟩ := hs.head
  obtain ⟨t, rfl⟩ : ∃ t, s = c :: t := List.head?_eq_some_iff.1 hc
  have hinert := inert_of_isPlain hplain
  have htail : c ≠ '?' ∧ c ≠ '#' := by simpa [Reader.isTail] using hinert.not_tail
  unfold Reader.relative
  dsimp only
  rw [if_neg htail.1, if_neg htail.2, if_neg (by simp [hinert.not_slash]),
    h.withPath_plain hs, h.relativeStart_eq]

theorem IsWeb.join_eq_relative {base : Url} (h : base.IsWeb) {s : String}
    (hscheme : Reader.scheme? (dropBreaks (Reader.trimmed s.toList)) = none) :
    base.join s = Reader.relative base (dropBreaks (Reader.trimmed s.toList)) := by
  have hkind : base.kind ≠ .file := by
    rw [h.kind_eq]
    decide
  unfold join Reader.read
  rw [hscheme]
  dsimp only
  unfold Reader.withoutScheme
  dsimp only
  by_cases hhash : (dropBreaks (Reader.trimmed s.toList)).head? = some '#'
  · obtain ⟨t, ht⟩ := List.head?_eq_some_iff.1 hhash
    rw [ht]
    rfl
  · rw [if_neg hhash, h.not_isOpaque, if_neg (by simp), if_neg hkind]

theorem IsWeb.join_plain {base : Url} (h : base.IsWeb) {s : String} (hs : PlainPath s.toList) :
    base.join s = .ok (base.withPathOnly (Path.upToSlash base.path.toList ++ s.toList)) := by
  have hcounted : dropBreaks (Reader.trimmed s.toList) = s.toList := by
    rw [hs.trimmed_eq, hs.dropBreaks_eq]
  rw [h.join_eq_relative (by rw [hcounted, hs.scheme?_eq]), hcounted, h.relative_plain hs]

end DocumentClient.Url
