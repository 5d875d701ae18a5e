import DocumentClient.Proofs.Instant.Figures
import DocumentClient.Resource.Document

namespace DocumentClient

open Text

namespace ClockReading

/-- The fraction of a second as it is written: nothing, or a point and one to nine digits. -/
inductive Fraction : List Char → Nat → Prop
  | none : Fraction [] 0
  | digits {ds : List Char} : IsNumeral ds → ds.length ≤ 9 →
      Fraction ('.' :: ds) (ofDigits ds * 10 ^ (9 - ds.length))

theorem Fraction.nanos?_append {fraction : List Char} {nanos : Nat} (h : Fraction fraction nanos)
    {zone : List Char} (hzone : ∀ c ∈ zone.head?, c.isDigit = false ∧ c ≠ '.') :
    Instant.Reader.nanos? (fraction ++ zone) = some (nanos, zone) := by
  cases h with
  | none => exact Instant.Reader.nanos?_of_ne fun c hc => (hzone c hc).2
  | digits hds hlength =>
    exact Instant.Reader.nanos?_of_digits hds.2 hds.1 hlength fun c hc => (hzone c hc).1

theorem Fraction.eq_zero {nanos : Nat} (h : Fraction [] nanos) : nanos = 0 := by
  cases h
  rfl

def zone (sign : Char) (hours minutes : Nat) : List Char :=
  sign :: (paddedDigits 2 hours ++ ':' :: paddedDigits 2 minutes)

/-- The texts of a reading, and the seconds by which the clock that shows it is ahead. -/
inductive Spells (r : ClockReading) (fraction : List Char) : String → Int → Prop
  | blank : Spells r fraction (String.ofList (r.stamp ' ' fraction)) 0
  | letter : Spells r fraction (String.ofList (r.stamp 'T' fraction)) 0
  | zulu : Spells r fraction (String.ofList (r.stamp 'T' (fraction ++ ['Z']))) 0
  | ahead {hours minutes : Nat} : hours ≤ 23 → minutes ≤ 59 →
      Spells r fraction (String.ofList (r.stamp 'T' (fraction ++ zone '+' hours minutes)))
        (hours * 3600 + minutes * 60)
  | behind {hours minutes : Nat} : hours ≤ 23 → minutes ≤ 59 →
      Spells r fraction (String.ofList (r.stamp 'T' (fraction ++ zone '-' hours minutes)))
        (-(hours * 3600 + minutes * 60))

section

open Instant Instant.Reader

variable {r : ClockReading} {fraction : List Char}

theorem offset?_zone {sign : Char} (hsign : sign = '+' ∨ sign = '-') {hours minutes : Nat}
    (hhours : hours ≤ 23) (hminutes : minutes ≤ 59) :
    offset? (zone sign hours minutes) =
      some (if sign = '+' then (hours * 3600 + minutes * 60 : Int)
        else -(hours * 3600 + minutes * 60), []) := by
  have hzulu : ¬ (sign = 'Z' ∨ sign = 'z') := by
    rcases hsign with rfl | rfl <;> decide
  have hknown : sign = '+' ∨ sign = '-' ∨ sign = '−' := hsign.imp_right Or.inl
  have hlast := digits?_two (by omega : minutes < 100) []
  rw [List.append_nil] at hlast
  simp only [zone, offset?, if_neg hzulu, guard_bind_of_pos hknown,
    digits?_two (by omega : hours < 100), expect?_cons_self, some_bind, hlast]
  exact guard_bind_of_pos ⟨hhours, hminutes⟩ _

theorem ofText?_stamp_zone (hr : r.Valid) (hyear : 0 ≤ r.date.year ∧ r.date.year ≤ 9999)
    (hfraction : Fraction fraction r.nanos) {zone : List Char} {offset : Int}
    (hhead : ∀ c ∈ zone.head?, c.isDigit = false ∧ c ≠ '.')
    (hzone : offset? zone = some (offset, [])) :
    ofText? (String.ofList (r.stamp 'T' (fraction ++ zone))) = some (r.toInstant offset) := by
  rw [ofText?, String.toList_ofList, rfc3339?_stamp hr hyear rfl (hfraction.nanos?_append hhead),
    hzone]
  rfl

theorem Fraction.nanos?_eq (hfraction : Fraction fraction r.nanos) :
    nanos? fraction = some (r.nanos, []) := by
  have happend : nanos? (fraction ++ []) = some (r.nanos, []) := hfraction.nanos?_append (by simp)
  rwa [List.append_nil] at happend

theorem rfc3339?_stamp_of_no_zone (hr : r.Valid) (hyear : 0 ≤ r.date.year ∧ r.date.year ≤ 9999)
    (hfraction : Fraction fraction r.nanos) {mark : Char} (hmark : isDateEnd mark = true) :
    rfc3339? (r.stamp mark fraction) = none := by
  have hend : nanos? (fraction ++ []) = some (r.nanos, []) := hfraction.nanos?_append (by simp)
  have hstamp := rfc3339?_stamp hr hyear hmark hend
  rwa [List.append_nil] at hstamp

theorem Spells.ofText?_eq (hr : r.Valid) (hyear : 0 ≤ r.date.year ∧ r.date.year ≤ 9999)
    (hfraction : Fraction fraction r.nanos) {text : String} {offset : Int}
    (h : r.Spells fraction text offset) : ofText? text = some (r.toInstant offset) := by
  cases h with
  | blank =>
    have hskip : ∀ n rest, Separator.blank.skip? (' ' :: (paddedDigits 2 n ++ rest)) =
        some (paddedDigits 2 n ++ rest) := by
      intro n rest
      rw [Separator.skip?, List.dropWhile_cons_of_pos rfl, dropWhile_isBlank_paddedDigits]
    rw [ofText?, String.toList_ofList, rfc3339?_stamp_of_no_zone hr hyear hfraction rfl,
      naive?_stamp hr hyear hskip hfraction.nanos?_eq]
    rfl
  | letter =>
    have hskip : ∀ n rest, Separator.letter.skip? ('T' :: (paddedDigits 2 n ++ rest)) =
        some (paddedDigits 2 n ++ rest) := fun n rest => expect?_cons_self 'T' _
    rw [ofText?, String.toList_ofList, rfc3339?_stamp_of_no_zone hr hyear hfraction rfl,
      naive?_blank_stamp hr hyear, naive?_stamp hr hyear hskip hfraction.nanos?_eq]
    rfl
  | zulu => exact ofText?_stamp_zone hr hyear hfraction (by simp) rfl
  | ahead hhours hminutes =>
    exact ofText?_stamp_zone hr hyear hfraction (by simp [zone])
      (offset?_zone (Or.inl rfl) hhours hminutes)
  | behind hhours hminutes =>
    exact ofText?_stamp_zone hr hyear hfraction (by simp [zone])
      (offset?_zone (Or.inr rfl) hhours hminutes)

end

end ClockReading

namespace Document

/-- Whatever the notation, a date and time is read as the instant at which a clock in Greenwich
shows it, less what the clock it was taken from is ahead. -/
theorem readInstant_notations {r : ClockReading} {fraction : List Char} (hr : r.Valid)
    (hyear : 0 ≤ r.date.year ∧ r.date.year ≤ 9999) (hsecond : r.second ≤ 59)
    (hfraction : ClockReading.Fraction fraction r.nanos) :
    ∃ t : Instant, t.reading = r ∧
      t.seconds = r.date.sinceEpoch * 86400 + r.hour * 3600 + r.minute * 60 + r.second ∧
      t.nanos = r.nanos ∧
      (∀ text offset, r.Spells fraction text offset →
        readInstant (.str text) = some { t with seconds := t.seconds - offset }) ∧
      (fraction = [] → readInstant (.int t.seconds) = some t) := by
  refine ⟨r.toInstant 0, hr.reading_toInstant (by omega), ?_, ?_, fun text offset h => ?_,
    fun hnone => ?_⟩
  · rw [ClockReading.toInstant_of_ne (by omega), hr.1.dayNumber_eq]
    dsimp only
    omega
  · rw [ClockReading.toInstant_of_ne (by omega)]
  · rw [← r.toInstant_offset]
    exact h.ofText?_eq hr hyear hfraction
  · subst hnone
    have hwhole : (r.toInstant 0).nanos = 0 := by
      rw [ClockReading.toInstant_of_ne (by omega), hfraction.eq_zero]
    have hread : readInstant (.int (r.toInstant 0).seconds) =
      some ⟨(r.toInstant 0).seconds, 0⟩ := hr.ofEpochSeconds? hyear
    rw [hread, ← hwhole]

theorem readInstant_notations_new_year :
    readInstant (.str "1969-12-31 23:59:59") = some ⟨-1, 0⟩ ∧
      readInstant (.str "1969-12-31T23:59:59-00:30") = some ⟨1799, 0⟩ ∧
      readInstant (.int (-1)) = some ⟨-1, 0⟩ := by
  let r : ClockReading := ⟨⟨1969, 12, 31⟩, 23, 59, 59, 0⟩
  obtain ⟨⟨seconds, nanos⟩, -, hseconds, hnanos, htext, hnumber⟩ :=
    readInstant_notations (by decide : r.Valid) (by decide) (by decide) ClockReading.Fraction.none
  obtain rfl : seconds = -1 := hseconds.trans (by decide +kernel)
  obtain rfl : nanos = 0 := hnanos
  have hblank : String.ofList (r.stamp ' ' []) = "1969-12-31 23:59:59" := by decide +kernel
  have hbehind : String.ofList (r.stamp 'T' ([] ++ ClockReading.zone '-' 0 30)) =
      "1969-12-31T23:59:59-00:30" := by decide +kernel
  refine ⟨?_, ?_, hnumber rfl⟩
  · rw [← hblank, htext _ _ .blank]
    rfl
  · rw [← hbehind, htext _ _ (.behind (by decide) (by decide))]
    rfl

end Document

end DocumentClient
