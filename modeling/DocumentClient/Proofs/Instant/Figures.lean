import DocumentClient.Instant.Reader
import DocumentClient.Proofs.Instant.Reading
import DocumentClient.Proofs.Text.Digits

namespace DocumentClient

def ClockReading.stamp (r : ClockReading) (mark : Char) (rest : List Char) : List Char :=
  Text.paddedDigits 4 r.date.year.natAbs ++ '-' :: (Text.paddedDigits 2 r.date.month ++
    '-' :: (Text.paddedDigits 2 r.date.day ++ mark :: (Text.paddedDigits 2 r.hour ++
      ':' :: (Text.paddedDigits 2 r.minute ++ ':' :: (Text.paddedDigits 2 r.second ++ rest)))))

namespace Instant.Reader

open Text

variable {α β : Type}

theorem some_bind (a : α) (f : α → Option β) : (some a >>= f) = f a := rfl

theorem none_bind (f : α → Option β) : (none >>= f) = none := rfl

theorem guard_bind_of_pos {p : Prop} [Decidable p] (h : p) (f : Unit → Option α) :
    ((guard p : Option Unit) >>= f) = f () := by
  rw [guard, if_pos h]
  rfl

theorem guard_bind_of_neg {p : Prop} [Decidable p] (h : ¬ p) (f : Unit → Option α) :
    ((guard p : Option Unit) >>= f) = none := by
  rw [guard, if_neg h]
  rfl

@[simp] theorem expect?_cons_self (c : Char) (s : List Char) : expect? c (c :: s) = some s :=
  if_pos rfl

theorem takeWhile_isDigit_append {ds rest : List Char} (hds : ∀ c ∈ ds, c.isDigit = true)
    (hrest : ∀ c ∈ rest.head?, c.isDigit = false) :
    (ds ++ rest).takeWhile Char.isDigit = ds := by
  rw [List.takeWhile_append_of_pos hds]
  cases rest with
  | nil => simp
  | cons c rest => simp [hrest c rfl]

theorem takeWhile_take_append {limit : Nat} {ds rest : List Char}
    (hds : ∀ c ∈ ds, c.isDigit = true) (hlimit : ds.length ≤ limit)
    (hrest : ds.length = limit ∨ ∀ c ∈ rest.head?, c.isDigit = false) :
    ((ds ++ rest).take limit).takeWhile Char.isDigit = ds := by
  rw [List.take_append, List.take_of_length_le hlimit]
  apply takeWhile_isDigit_append hds
  intro c hc
  rw [List.head?_take] at hc
  split at hc
  · cases hc
  · next hne => exact (hrest.resolve_left (by omega)) c hc

theorem digits?_append {least limit : Nat} {ds rest : List Char}
    (hds : ∀ c ∈ ds, c.isDigit = true) (hleast : least ≤ ds.length) (hlimit : ds.length ≤ limit)
    (hrest : ds.length = limit ∨ ∀ c ∈ rest.head?, c.isDigit = false) :
    digits? least limit (ds ++ rest) = some (ofDigits ds, rest) := by
  rw [digits?, takeWhile_take_append hds hlimit hrest, List.drop_left]
  exact if_pos hleast

theorem digits?_of_not_isDigit {least : Nat} {c : Char} (hc : c.isDigit = false)
    (hleast : 0 < least) (limit : Nat) (s : List Char) : digits? least limit (c :: s) = none := by
  have htake : ((c :: s).take limit).takeWhile Char.isDigit = [] := by
    cases limit <;> simp [hc]
  rw [digits?, htake]
  exact if_neg (Nat.not_le.2 hleast)

theorem digits?_paddedDigits {width n least : Nat} (hleast : least ≤ width) (hwidth : 0 < width)
    (h : n < 10 ^ width) (rest : List Char) :
    digits? least width (paddedDigits width n ++ rest) = some (n, rest) := by
  have hlength := length_paddedDigits hwidth h
  rw [digits?_append (fun c => isDigit_of_mem_paddedDigits) (by omega) (by omega)
    (Or.inl hlength), ofDigits_paddedDigits]

theorem digits?_two {n : Nat} (h : n < 100) (rest : List Char) :
    digits? 2 2 (paddedDigits 2 n ++ rest) = some (n, rest) :=
  digits?_paddedDigits (by decide) (by decide) h rest

theorem dropWhile_isBlank_paddedDigits (width n : Nat) (rest : List Char) :
    (paddedDigits width n ++ rest).dropWhile isBlank = paddedDigits width n ++ rest := by
  obtain ⟨c, cs, h⟩ := List.exists_cons_of_ne_nil (paddedDigits_ne_nil width n)
  have hc : c.isDigit = true := isDigit_of_mem_paddedDigits (h ▸ List.mem_cons_self)
  rw [h, List.cons_append, List.dropWhile_cons_of_neg (by simp [isBlank_of_isDigit hc])]

theorem loose?_two {n : Nat} (h : n < 100) (rest : List Char) :
    loose? 2 (paddedDigits 2 n ++ rest) = some (n, rest) := by
  rw [loose?, dropWhile_isBlank_paddedDigits, digits?_paddedDigits (by decide) (by decide) h]

theorem nanos?_of_digits {ds rest : List Char} (hds : ∀ c ∈ ds, c.isDigit = true) (hne : ds ≠ [])
    (hlength : ds.length ≤ 9) (hrest : ∀ c ∈ rest.head?, c.isDigit = false) :
    nanos? ('.' :: (ds ++ rest)) = some (ofDigits ds * 10 ^ (9 - ds.length), rest) := by
  have htake : ((ds ++ rest).take 9).takeWhile Char.isDigit = ds :=
    takeWhile_take_append hds hlength (Or.inr hrest)
  have hdrop : rest.dropWhile Char.isDigit = rest := by
    cases rest with
    | nil => rfl
    | cons c rest => simp [hrest c rfl]
  rw [nanos?]
  simp only [htake, List.drop_left, hdrop, guard_bind_of_pos hne]
  rfl

theorem nanos?_of_ne {rest : List Char} (hrest : ∀ c ∈ rest.head?, c ≠ '.') :
    nanos? rest = some (0, rest) := by
  rw [nanos?]
  intro s hs
  exact hrest '.' (by simp [hs]) rfl

theorem nanos?_fractionText {nanos : Nat} (h : nanos < 1000000000) {rest : List Char}
    (hrest : ∀ c ∈ rest.head?, c.isDigit = false ∧ c ≠ '.') :
    nanos? (fractionText nanos ++ rest) = some (nanos, rest) := by
  have hdigits : ∀ c ∈ rest.head?, c.isDigit = false := fun c hc => (hrest c hc).1
  have hread : ∀ width k, 0 < width → width ≤ 9 → k < 10 ^ width →
      nanos? ('.' :: (paddedDigits width k ++ rest)) = some (k * 10 ^ (9 - width), rest) := by
    intro width k hpos hle hk
    have hlength := length_paddedDigits hpos hk
    rw [nanos?_of_digits (fun c => isDigit_of_mem_paddedDigits) (paddedDigits_ne_nil width k)
      (by omega) hdigits, ofDigits_paddedDigits, hlength]
  rw [fractionText]
  split
  · next h0 => rw [h0, List.nil_append, nanos?_of_ne fun c hc => (hrest c hc).2]
  · split
    · next hmillis =>
      have hscale : nanos / 1000000 * 10 ^ (9 - 3) = nanos := by omega
      rw [List.cons_append, hread 3 _ (by decide) (by decide) (by omega), hscale]
    · split
      · next hmicros =>
        have hscale : nanos / 1000 * 10 ^ (9 - 6) = nanos := by omega
        rw [List.cons_append, hread 6 _ (by decide) (by decide) (by omega), hscale]
      · have hscale : nanos * 10 ^ (9 - 9) = nanos := by omega
        rw [List.cons_append, hread 9 nanos (by decide) (by decide) (by omega), hscale]

theorem loose?_of_letter (limit : Nat) (s : List Char) :
    loose? limit (('T' :: s).dropWhile isBlank) = none := by
  have hblank : isBlank 'T' = false := rfl
  rw [loose?, List.dropWhile_cons_of_neg (by simp [hblank]),
    List.dropWhile_cons_of_neg (by simp [hblank]), digits?_of_not_isDigit rfl (by decide)]

theorem looseYear?_paddedDigits {n : Nat} (h : n < 10000) (rest : List Char) :
    looseYear? (paddedDigits 4 n ++ rest) = some ((n : Int), rest) := by
  have hread : digits? 1 4 (paddedDigits 4 n ++ rest) = some (n, rest) :=
    digits?_paddedDigits (by decide) (by decide) h rest
  have hdigit : ∀ c s, paddedDigits 4 n ++ rest = c :: s → c.isDigit = true := by
    intro c s hs
    obtain ⟨d, ds, hds⟩ := List.exists_cons_of_ne_nil (paddedDigits_ne_nil 4 n)
    have hd : d.isDigit = true := isDigit_of_mem_paddedDigits (hds ▸ List.mem_cons_self)
    rw [hds, List.cons_append, List.cons.injEq] at hs
    rwa [hs.1] at hd
  rw [looseYear?, dropWhile_isBlank_paddedDigits]
  split
  · next hs => cases hdigit _ _ hs
  · next hs => cases hdigit _ _ hs
  · rw [hread, Option.map_some]

section

variable {r : ClockReading}

theorem rfc3339?_stamp (hr : r.Valid) (hyear : 0 ≤ r.date.year ∧ r.date.year ≤ 9999) {mark : Char}
    (hmark : isDateEnd mark = true) {fraction zone : List Char}
    (hfraction : nanos? (fraction ++ zone) = some (r.nanos, zone)) :
    rfc3339? (r.stamp mark (fraction ++ zone)) =
      (offset? zone).bind fun p => if p.2 = [] then some (r.toInstant p.1) else none := by
  obtain ⟨hmonth, hday, hhour, hminute, hsecond⟩ := hr.lt_hundred
  have hnat : (r.date.year.natAbs : Int) = r.date.year := Int.natAbs_of_nonneg hyear.1
  have hfour : ∀ rest, digits? 4 4 (paddedDigits 4 r.date.year.natAbs ++ rest) =
      some (r.date.year.natAbs, rest) :=
    digits?_paddedDigits (by decide) (by decide) (by omega)
  simp only [rfc3339?, ClockReading.stamp, hfour, digits?_two hmonth, digits?_two hday,
    digits?_two hhour, digits?_two hminute, digits?_two hsecond, expect?_cons_self, hfraction,
    some_bind, List.head?_cons, List.tail_cons, Option.map_some, guard_bind_of_pos hmark, hnat,
    if_pos hr]
  cases offset? zone with
  | none => rfl
  | some p =>
    obtain ⟨offset, s⟩ := p
    rw [some_bind, Option.bind_some]
    split
    · next hs => exact guard_bind_of_pos hs _
    · next hs => exact guard_bind_of_neg hs _

theorem naive?_stamp (hr : r.Valid) (hyear : 0 ≤ r.date.year ∧ r.date.year ≤ 9999)
    {separator : Separator} {mark : Char}
    (hskip : ∀ n rest, separator.skip? (mark :: (paddedDigits 2 n ++ rest)) =
      some (paddedDigits 2 n ++ rest))
    {fraction : List Char} (hfraction : nanos? fraction = some (r.nanos, [])) :
    naive? separator (r.stamp mark fraction) = some (r.toInstant 0) := by
  obtain ⟨hmonth, hday, hhour, hminute, hsecond⟩ := hr.lt_hundred
  have hnat : (r.date.year.natAbs : Int) = r.date.year := Int.natAbs_of_nonneg hyear.1
  have hfour : ∀ rest, looseYear? (paddedDigits 4 r.date.year.natAbs ++ rest) =
      some (r.date.year, rest) := by
    intro rest
    have hread := looseYear?_paddedDigits (by omega : r.date.year.natAbs < 10000) rest
    rwa [hnat] at hread
  have hrange : firstYear ≤ r.date.year ∧ r.date.year ≤ lastYear := by
    rw [firstYear, lastYear]
    omega
  simp only [naive?, ClockReading.stamp, hfour, expect?_cons_self, loose?_two hmonth,
    loose?_two hday, hskip, loose?_two hhour, loose?_two hminute, loose?_two hsecond, hfraction,
    some_bind, guard_bind_of_pos trivial, guard_bind_of_pos hrange, if_pos hr]

theorem naive?_blank_stamp (hr : r.Valid) (hyear : 0 ≤ r.date.year ∧ r.date.year ≤ 9999)
    (fraction : List Char) : naive? .blank (r.stamp 'T' fraction) = none := by
  obtain ⟨hmonth, hday, -⟩ := hr.lt_hundred
  have hbound : r.date.year.natAbs < 10000 := by omega
  simp only [naive?, ClockReading.stamp, looseYear?_paddedDigits hbound, expect?_cons_self,
    loose?_two hmonth, loose?_two hday, Separator.skip?, loose?_of_letter, some_bind, none_bind]

end

end Instant.Reader

end DocumentClient
