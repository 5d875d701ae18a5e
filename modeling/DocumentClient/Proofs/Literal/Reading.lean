import DocumentClient.Proofs.Binary64.Rounding
import DocumentClient.Proofs.Literal.Unquoted

namespace DocumentClient

open Text

inductive Text.Writes : List Char → ℚ → Prop
  | whole {ds : List Char} : IsNumeral ds → Writes ds (ofDigits ds)
  | decimal {ds fs : List Char} : IsNumeral ds → IsNumeral fs →
      Writes (ds ++ '.' :: fs) (ofDigits ds + ofDigits fs / 10 ^ fs.length)

/-- What a piece of a list counts as, once the white space around it and then its marks are off. -/
inductive ListItem.ReadFrom (piece : List Char) : ListItem → Prop
  | int {bare s : List Char} {n : Int64} : StripsTo isBlank piece bare →
      StripsTo Literal.isQuoteMark bare s → IsNumeral s → n.toInt = ofDigits s →
      ReadFrom piece (.int n)
  | text {bare s : List Char} : StripsTo isBlank piece bare →
      StripsTo Literal.isQuoteMark bare s → (IsNumeral s → Nat.pow 2 63 ≤ ofDigits s) →
      ReadFrom piece (.text (String.ofList s))

def Literal.pieces (s : List Char) : List (List Char) :=
  (s.splitOn ',').filter (!·.all isBlank)

/-- What bare text to the right of `op` counts as. -/
inductive Literal.ReadFrom (raw : List Char) (op : Option Operator) : Literal → Prop
  | int {n : Int64} : IsNumeral raw → n.toInt = ofDigits raw → ReadFrom raw op (.int n)
  | float {q : ℚ} {x : Binary64} : Writes raw q → (IsNumeral raw → Nat.pow 2 63 ≤ ofDigits raw) →
      x.Rounds q → x.isFinite = true → ReadFrom raw op (.float x)
  | tooLarge {q : ℚ} {x : Binary64} : Writes raw q →
      (IsNumeral raw → Nat.pow 2 63 ≤ ofDigits raw) → x.Rounds q → x.isFinite = false →
      ReadFrom raw op (.text (String.ofList raw))
  | list {s : List Char} {items : List ListItem} : (∀ q, ¬ Writes raw q) →
      op.any Operator.takesList = true → StripsTo isQuoteMark raw s →
      List.Forall₂ ListItem.ReadFrom (pieces s) items → ReadFrom raw op (.list items)
  | text {s : List Char} : (∀ q, ¬ Writes raw q) → op.any Operator.takesList = false →
      StripsTo isQuoteMark raw s → ReadFrom raw op (.text (String.ofList s))

namespace Literal

theorem int64?_eq_some_iff {ds : List Char} {n : Int64} :
    int64? ds = some n ↔ n.toInt = ofDigits ds := by
  have hend : (2 : Int) ^ 63 = 9223372036854775808 := by norm_num
  rw [int64?]
  split
  · next h =>
    have hvalue : (Int64.ofNat (ofDigits ds)).toInt = ofDigits ds :=
      Int64.toInt_ofNat_of_lt h
    rw [Option.some.injEq, ← Int64.toInt_inj, hvalue, eq_comm]
  · next h =>
    have hlt : n.toInt < 2 ^ 63 := n.toInt_lt
    refine iff_of_false (by simp) fun heq => h ?_
    omega

theorem int64?_eq_none_iff {ds : List Char} :
    int64? ds = none ↔ Nat.pow 2 63 ≤ ofDigits ds := by
  have hend : Nat.pow 2 63 = 9223372036854775808 := rfl
  rw [int64?, hend]
  split
  · next h => exact iff_of_false (by simp) (Nat.not_le.2 h)
  · next h => exact iff_of_true rfl (Nat.not_lt.1 h)

namespace Shape

def value? : Shape → Option ℚ
  | whole ds => some (ofDigits ds)
  | decimal ds fs => some (ofDigits ds + ofDigits fs / 10 ^ fs.length)
  | other => none

theorem of_decimal {ds fs : List Char} (hds : IsNumeral ds) (hfs : IsNumeral fs) :
    Shape.of (ds ++ '.' :: fs) = .decimal ds fs := by
  have hpoint : '.'.isDigit = false := rfl
  have htake : (ds ++ '.' :: fs).takeWhile Char.isDigit = ds := by
    rw [List.takeWhile_append_of_pos hds.2, List.takeWhile_cons_of_neg (by simp), List.append_nil]
  have hdrop : (ds ++ '.' :: fs).dropWhile Char.isDigit = '.' :: fs := by
    rw [List.dropWhile_append_of_pos hds.2, List.dropWhile_cons_of_neg (by simp)]
  simpa [Shape.of, spanDigits, htake, hdrop, hds.1, hfs.1] using hfs.2

theorem of_eq_whole_iff {s ds : List Char} : Shape.of s = .whole ds ↔ ds = s ∧ IsNumeral s := by
  constructor
  · intro h
    obtain ⟨rfl, hdigits⟩ := eq_of_whole h
    refine ⟨rfl, fun hnil => ?_, hdigits⟩
    subst hnil
    cases h
  · rintro ⟨rfl, hne, hdigits⟩
    exact of_digits hne hdigits

end Shape

theorem writes_iff {s : List Char} {q : ℚ} : Writes s q ↔ (Shape.of s).value? = some q := by
  constructor
  · rintro (⟨hds⟩ | ⟨hds, hfs⟩)
    · rw [Shape.of_eq_whole_iff.2 ⟨rfl, hds⟩]
      rfl
    · rw [Shape.of_decimal hds hfs]
      rfl
  · intro h
    cases hshape : Shape.of s with
    | whole ds =>
      obtain ⟨rfl, hds⟩ := Shape.of_eq_whole_iff.1 hshape
      rw [hshape] at h
      cases h
      exact .whole hds
    | decimal ds fs =>
      obtain ⟨rfl, hds, hfs⟩ := Shape.eq_of_decimal hshape
      rw [hshape] at h
      cases h
      exact .decimal hds hfs
    | other =>
      rw [hshape] at h
      cases h

theorem not_writes_iff {s : List Char} : (∀ q, ¬ Writes s q) ↔ Shape.of s = .other := by
  simp only [writes_iff]
  cases Shape.of s <;> simp [Shape.value?]

section

variable {raw : List Char} {op : Option Operator}

theorem coerce_of_numeral {n : Int64} (h : IsNumeral raw) (hn : n.toInt = ofDigits raw) :
    coerce raw op = .int n := by
  rw [coerce, Shape.of_eq_whole_iff.2 ⟨rfl, h⟩]
  simp only [int64?_eq_some_iff.2 hn]

theorem coerce_of_writes {q : ℚ} (op : Option Operator) (h : Writes raw q)
    (hlarge : IsNumeral raw → Nat.pow 2 63 ≤ ofDigits raw) :
    ∃ x : Binary64, x.Rounds q ∧ coerce raw op = floatOrText raw x := by
  cases h with
  | whole hds =>
    have hrounds := Binary64.rounds_ofDecimal (ofDigits raw) 0
    rw [zpow_zero, mul_one] at hrounds
    refine ⟨_, hrounds, ?_⟩
    rw [coerce, Shape.of_eq_whole_iff.2 ⟨rfl, hds⟩]
    simp only [int64?_eq_none_iff.2 (hlarge hds)]
  | @decimal ds fs hds hfs =>
    have hvalue : (ofDigits (ds ++ fs) : ℚ) * 10 ^ (-(fs.length : Int)) =
        ofDigits ds + ofDigits fs / 10 ^ fs.length := by
      rw [ofDigits_append, zpow_neg, zpow_natCast]
      push_cast
      field_simp
    refine ⟨_, hvalue ▸ Binary64.rounds_ofDecimal (ofDigits (ds ++ fs)) (-(fs.length : Int)), ?_⟩
    rw [coerce, Shape.of_decimal hds hfs]

theorem coerce_of_not_writes (h : ∀ q, ¬ Writes raw q) :
    coerce raw op = if op.any Operator.takesList then .list (coerceList raw)
      else .text (String.ofList (stripQuotes raw)) := by
  rw [coerce, not_writes_iff.1 h]

end

end Literal

namespace ListItem

variable {piece : List Char} {item : ListItem}

theorem readFrom_coerce (piece : List Char) : (coerce piece).ReadFrom piece := by
  have hbare := stripsTo_strip isBlank piece
  have hs := stripsTo_strip Literal.isQuoteMark (trim piece)
  rw [coerce]
  cases hshape : Literal.Shape.of (Literal.stripQuotes (trim piece)) with
  | whole ds =>
    obtain ⟨rfl, hds⟩ := Literal.Shape.of_eq_whole_iff.1 hshape
    cases hn : Literal.int64? (Literal.stripQuotes (trim piece)) with
    | some n =>
      simp only [hn]
      exact .int hbare hs hds (Literal.int64?_eq_some_iff.1 hn)
    | none =>
      simp only [hn]
      exact .text hbare hs fun _ => Literal.int64?_eq_none_iff.1 hn
  | decimal | other =>
    refine .text hbare hs fun hds => ?_
    have hwhole := Literal.Shape.of_eq_whole_iff.2 ⟨rfl, hds⟩
    exact absurd (hwhole.symm.trans hshape) (by simp)

theorem ReadFrom.coerce_eq (h : item.ReadFrom piece) : coerce piece = item := by
  cases h with
  | int hbare hs hds hn =>
    rw [coerce, trim, hbare.strip_eq, Literal.stripQuotes, hs.strip_eq]
    simp only [Literal.Shape.of_eq_whole_iff.2 ⟨rfl, hds⟩, Literal.int64?_eq_some_iff.2 hn]
  | @text bare s hbare hs hlarge =>
    rw [coerce, trim, hbare.strip_eq, Literal.stripQuotes, hs.strip_eq]
    cases hshape : Literal.Shape.of s with
    | whole ds =>
      obtain ⟨rfl, hds⟩ := Literal.Shape.of_eq_whole_iff.1 hshape
      simp only [Literal.int64?_eq_none_iff.2 (hlarge hds)]
    | decimal | other => rfl

theorem coerce_eq_iff : coerce piece = item ↔ item.ReadFrom piece := by
  constructor
  · rintro rfl
    exact readFrom_coerce piece
  · exact ReadFrom.coerce_eq

def Settled : ListItem → Prop
  | int n => 0 ≤ n.toInt
  | text s => ',' ∉ s.toList ∧ Stripped Literal.isQuoteMark s.toList ∧
      (IsNumeral s.toList → Nat.pow 2 63 ≤ ofDigits s.toList)

theorem ReadFrom.settled (h : item.ReadFrom piece) (hcomma : ',' ∉ piece) : item.Settled := by
  cases h with
  | int _ _ _ hn =>
    rw [Settled, hn]
    exact Int.natCast_nonneg _
  | text hbare hs hlarge =>
    simp only [Settled, String.toList_ofList]
    exact ⟨fun hc => hcomma (hbare.mem (hs.mem hc)), hs.stripped, hlarge⟩

end ListItem

namespace Literal

theorem trim_eq_nil_iff {piece : List Char} : trim piece = [] ↔ piece.all isBlank = true := by
  have h : StripsTo isBlank piece (trim piece) := stripsTo_strip isBlank piece
  rw [List.all_eq_true]
  constructor
  · intro hnil c hc
    rw [hnil] at h
    obtain ⟨pre, post, hpre, hpost, rfl⟩ := h.enclosed
    rw [List.append_nil, List.mem_append] at hc
    exact hc.elim (hpre c) (hpost c)
  · intro hall
    by_contra hne
    obtain ⟨c, s, hs⟩ := List.exists_cons_of_ne_nil hne
    rw [hs] at h
    have hblank : isBlank c = true := hall c (h.mem List.mem_cons_self)
    simp [h.stripped.head c rfl] at hblank

theorem coerceList_eq (raw : List Char) :
    coerceList raw = (pieces (stripQuotes raw)).map ListItem.coerce := by
  have hkeep : ∀ piece, decide (trim piece ≠ []) = !piece.all isBlank := by
    intro piece
    rw [decide_not, Bool.eq_iff_iff.2 (decide_eq_true_iff.trans trim_eq_nil_iff)]
  rw [coerceList, pieces]
  exact congrArg (List.map _) (List.filter_congr fun piece _ => hkeep piece)

theorem comma_not_mem_of_mem_pieces {s piece : List Char} (h : piece ∈ pieces s) :
    ',' ∉ piece := by
  intro hc
  have hpiece := not_of_mem_splitOnP (List.mem_filter.1 h).1 ',' hc
  simp at hpiece

theorem forall₂_readFrom_iff {ps : List (List Char)} {items : List ListItem} :
    List.Forall₂ (fun piece item => ListItem.ReadFrom piece item) ps items ↔
      ps.map ListItem.coerce = items := by
  simp only [← ListItem.coerce_eq_iff]
  rw [← List.forall₂_map_left_iff, List.forall₂_eq_eq_eq]

def Settled : Literal → Prop
  | int n => 0 ≤ n.toInt
  | float x => ∃ v, x.value? = some v ∧ 0 ≤ v
  | text s => Stripped isQuoteMark s.toList
  | list items => ∀ item ∈ items, item.Settled

section

variable {raw : List Char} {op : Option Operator} {v : Literal}

theorem readFrom_coerce (raw : List Char) (op : Option Operator) :
    (coerce raw op).ReadFrom raw op := by
  by_cases hwrites : ∃ q, Writes raw q
  · obtain ⟨q, hq⟩ := hwrites
    by_cases hfits : ∃ n : Int64, IsNumeral raw ∧ n.toInt = ofDigits raw
    · obtain ⟨n, hraw, hn⟩ := hfits
      rw [coerce_of_numeral hraw hn]
      exact .int hraw hn
    · have hlarge : IsNumeral raw → Nat.pow 2 63 ≤ ofDigits raw := by
        intro hraw
        rw [← int64?_eq_none_iff, Option.eq_none_iff_forall_ne_some]
        exact fun n hn => hfits ⟨n, hraw, int64?_eq_some_iff.1 hn⟩
      obtain ⟨x, hx, hcoerce⟩ := coerce_of_writes op hq hlarge
      rw [hcoerce, floatOrText]
      split
      · next hfinite => exact .float hq hlarge hx hfinite
      · next hfinite => exact .tooLarge hq hlarge hx (by simpa using hfinite)
  · have hnone : ∀ q, ¬ Writes raw q := fun q hq => hwrites ⟨q, hq⟩
    rw [coerce_of_not_writes hnone]
    split
    · next hop =>
      refine .list hnone hop (stripsTo_strip isQuoteMark raw) ?_
      exact forall₂_readFrom_iff.2 (coerceList_eq raw).symm
    · next hop => exact .text hnone (by simpa using hop) (stripsTo_strip isQuoteMark raw)

theorem ReadFrom.coerce_eq (h : v.ReadFrom raw op) : coerce raw op = v := by
  cases h with
  | int hraw hn => exact coerce_of_numeral hraw hn
  | float hq hlarge hx hfinite =>
    obtain ⟨y, hy, hcoerce⟩ := coerce_of_writes op hq hlarge
    rw [hcoerce, hy.unique hx, floatOrText, if_pos hfinite]
  | tooLarge hq hlarge hx hfinite =>
    obtain ⟨y, hy, hcoerce⟩ := coerce_of_writes op hq hlarge
    rw [hcoerce, hy.unique hx, floatOrText, if_neg (by simp [hfinite])]
  | list hnone hop hs hitems =>
    rw [coerce_of_not_writes hnone, if_pos hop, coerceList_eq, stripQuotes, hs.strip_eq,
      forall₂_readFrom_iff.1 hitems]
  | text hnone hop hs =>
    rw [coerce_of_not_writes hnone, if_neg (by simp [hop]), stripQuotes, hs.strip_eq]

theorem settled_coerce (raw : List Char) (op : Option Operator) : (coerce raw op).Settled := by
  have hunquoted := unquoted_coerce raw op
  have hread := readFrom_coerce raw op
  generalize coerce raw op = v at hunquoted hread
  cases hread with
  | int _ hn =>
    rw [Settled, hn]
    exact Int.natCast_nonneg _
  | float _ _ hx hfinite =>
    cases hx with
    | finite _ h => exact ⟨_, rfl, Binary64.magnitude_nonneg _ _⟩
    | infinite _ => cases hfinite
  | tooLarge | text => exact hunquoted
  | list _ _ _ hitems =>
    obtain rfl := forall₂_readFrom_iff.1 hitems
    intro item hitem
    obtain ⟨piece, hpiece, rfl⟩ := List.mem_map.1 hitem
    exact (ListItem.readFrom_coerce piece).settled (comma_not_mem_of_mem_pieces hpiece)

theorem Settled.toJson_ne_null (h : v.Settled) : v.toJson ≠ .null := by
  cases v with
  | float x =>
    obtain ⟨q, hq, -⟩ := h
    cases x with
    | finite => simp [toJson, Json.float, Binary64.isFinite]
    | infinite | nan => cases hq
  | int | text | list => simp [toJson, Json.int]

theorem coerce_eq_iff_readFrom (raw : List Char) (op : Option Operator) :
    (∀ v, coerce raw op = v ↔ v.ReadFrom raw op) ∧
      (coerce raw op).Settled ∧ (coerce raw op).toJson ≠ .null := by
  refine ⟨fun v => ⟨?_, ReadFrom.coerce_eq⟩, settled_coerce raw op,
    (settled_coerce raw op).toJson_ne_null⟩
  rintro rfl
  exact readFrom_coerce raw op

example : coerce "009223372036854775808".toList (some .oneOf) =
    .float (.finite false (Nat.pow 2 52) 11) := by decide +kernel

end

end Literal

end DocumentClient
