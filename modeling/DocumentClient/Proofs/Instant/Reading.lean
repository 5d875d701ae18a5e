import DocumentClient.Instant.Reader
import DocumentClient.Proofs.Calendar
import Mathlib.Data.Option.Basic

namespace DocumentClient

namespace ClockReading

theorem Valid.lt_hundred {r : ClockReading} (h : r.Valid) :
    r.date.month < 100 ∧ r.date.day < 100 ∧ r.hour < 100 ∧ r.minute < 100 ∧ r.second < 100 := by
  obtain ⟨hdate, hhour, hminute, hsecond, -⟩ := h
  have hmonth := hdate.month_le
  have hday := hdate.day_le
  omega

theorem toInstant_offset (r : ClockReading) (offset : Int) :
    r.toInstant offset = { r.toInstant 0 with seconds := (r.toInstant 0).seconds - offset } := by
  simp [toInstant]

theorem toInstant_of_leap {r : ClockReading} (h : r.second = 60) (offset : Int) :
    r.toInstant offset =
      ⟨r.date.dayNumber * 86400 + (r.hour * 3600 + r.minute * 60 + 59 : Nat) - offset,
        r.nanos + 1000000000⟩ := by
  simp [toInstant, h]

theorem toInstant_of_ne {r : ClockReading} (h : r.second ≠ 60) (offset : Int) :
    r.toInstant offset =
      ⟨r.date.dayNumber * 86400 + (r.hour * 3600 + r.minute * 60 + r.second : Nat) - offset,
        r.nanos⟩ := by
  simp [toInstant, h]

end ClockReading

namespace Instant

/-- Only the last second of a minute can be a leap second. -/
def WellFormed (t : Instant) : Prop :=
  t.nanos < 1000000000 ∨ t.nanos < 2000000000 ∧ t.seconds % 60 = 59

theorem valid_reading {t : Instant} (h : t.WellFormed) : t.reading.Valid := by
  refine ⟨Date.valid_ofDayNumber _, ?_⟩
  simp only [reading]
  rcases h with h | ⟨h, -⟩
  · rw [if_neg (by omega), if_neg (by omega)]
    omega
  · split <;> omega

theorem toInstant_reading {t : Instant} (h : t.WellFormed) : t.reading.toInstant 0 = t := by
  obtain ⟨seconds, nanos⟩ := t
  have hdate : (reading ⟨seconds, nanos⟩).date.dayNumber = seconds / 86400 :=
    Date.dayNumber_ofDayNumber _
  by_cases hleap : 1000000000 ≤ nanos
  · have hlast : seconds % 60 = 59 := by
      rcases h with h | ⟨-, h⟩
      · exact absurd hleap (Nat.not_le.2 h)
      · exact h
    have hsecond : (reading ⟨seconds, nanos⟩).second = 60 := by
      simp only [reading, if_pos hleap]
      omega
    rw [ClockReading.toInstant_of_leap hsecond, hdate]
    simp only [reading, if_pos hleap, Instant.mk.injEq]
    omega
  · have hsecond : (reading ⟨seconds, nanos⟩).second = (seconds % 86400).toNat % 60 := by
      simp only [reading, if_neg hleap, Nat.add_zero]
    rw [ClockReading.toInstant_of_ne (by omega), hdate, hsecond]
    simp only [reading, if_neg hleap, Instant.mk.injEq, and_true]
    omega

end Instant

namespace ClockReading

theorem Valid.wellFormed_toInstant {r : ClockReading} (hr : r.Valid) {offset : Int}
    (hoffset : offset % 60 = 0) : (r.toInstant offset).WellFormed := by
  obtain ⟨-, -, -, -, hnanos⟩ := hr
  by_cases h : r.second = 60
  · rw [toInstant_of_leap h]
    right
    constructor
    · dsimp only
      omega
    · dsimp only
      omega
  · rw [toInstant_of_ne h]
    left
    exact hnanos

theorem Valid.reading_toInstant {r : ClockReading} (hr : r.Valid) (hsecond : r.second < 60) :
    (r.toInstant 0).reading = r := by
  obtain ⟨hdate, hhour, hminute, -, hnanos⟩ := hr
  obtain ⟨date, hour, minute, second, nanos⟩ := r
  dsimp only at *
  have hday : (date.dayNumber * 86400 + (hour * 3600 + minute * 60 + second : Nat) - 0) / 86400 =
      date.dayNumber := by omega
  have hclock : ((date.dayNumber * 86400 + (hour * 3600 + minute * 60 + second : Nat) - 0) %
      86400).toNat = hour * 3600 + minute * 60 + second := by omega
  rw [toInstant_of_ne (by dsimp only; omega)]
  simp only [Instant.reading, hday, hclock, hdate.ofDayNumber_dayNumber,
    if_neg (Nat.not_le.2 hnanos), mk.injEq, true_and, and_true, Nat.add_zero]
  omega

theorem Valid.seconds_of_day {r : ClockReading} (hr : r.Valid) :
    r.date.dayNumber * 86400 ≤ (r.toInstant 0).seconds ∧
      (r.toInstant 0).seconds < (r.date.dayNumber + 1) * 86400 := by
  obtain ⟨-, hhour, hminute, hsecond, -⟩ := hr
  by_cases hleap : r.second = 60
  · rw [toInstant_of_leap hleap]
    dsimp only
    omega
  · rw [toInstant_of_ne hleap]
    dsimp only
    omega

theorem Valid.ofEpochSeconds? {r : ClockReading} (hr : r.Valid)
    (hyear : 0 ≤ r.date.year ∧ r.date.year ≤ 9999) :
    Instant.ofEpochSeconds? (r.toInstant 0).seconds = some ⟨(r.toInstant 0).seconds, 0⟩ := by
  obtain ⟨hmidnight, hnext⟩ := hr.seconds_of_day
  obtain ⟨hfirst, hlast⟩ := hr.1.dayNumber_bounds
  have hzero : -366 ≤ Date.daysBeforeYear r.date.year := Date.daysBeforeYear_mono hyear.1
  have hend : Date.daysBeforeYear (r.date.year + 1) ≤ 3652059 :=
    Date.daysBeforeYear_mono (z := 10000) (by omega)
  have hepoch : Date.epochDays = 719162 := rfl
  have hlow : Instant.firstSecond = -8334601228800 := rfl
  have hhigh : Instant.lastSecond = 8210266876799 := rfl
  exact if_pos (by omega)

end ClockReading

namespace Instant

namespace Reader

variable {α β : Type}

theorem bind_eq_some_iff {x : Option α} {f : α → Option β} {b : β} :
    (x >>= f) = some b ↔ ∃ a, x = some a ∧ f a = some b :=
  Option.bind_eq_some_iff

theorem mod_of_offset? {s s' : List Char} {offset : Int} (h : offset? s = some (offset, s')) :
    offset % 60 = 0 := by
  cases s with
  | nil => cases h
  | cons c s =>
    rw [offset?] at h
    split at h
    · cases h
      rfl
    · simp only [bind_eq_some_iff] at h
      obtain ⟨_, -, ⟨hours, _⟩, -, _, -, ⟨minutes, _⟩, -, _, -, h⟩ := h
      injection h with h
      injection h with hseconds
      rw [← hseconds]
      split <;> omega

theorem wellFormed_of_rfc3339? {s : List Char} {t : Instant} (h : rfc3339? s = some t) :
    t.WellFormed := by
  simp only [rfc3339?, bind_eq_some_iff] at h
  obtain ⟨⟨year, _⟩, -, _, -, ⟨month, _⟩, -, _, -, ⟨day, _⟩, -, _, -, _, -, ⟨hour, _⟩, -, _, -,
    ⟨minute, _⟩, -, _, -, ⟨second, _⟩, -, ⟨nanos, _⟩, -, ⟨offset, _⟩, hoffset, _, -, h⟩ := h
  split at h
  · next hvalid =>
    cases h
    exact hvalid.wellFormed_toInstant (mod_of_offset? hoffset)
  · cases h

theorem wellFormed_of_naive? {separator : Separator} {s : List Char} {t : Instant}
    (h : naive? separator s = some t) : t.WellFormed := by
  simp only [naive?, bind_eq_some_iff] at h
  obtain ⟨⟨year, _⟩, -, _, -, ⟨month, _⟩, -, _, -, ⟨day, _⟩, -, _, -, ⟨hour, _⟩, -, _, -,
    ⟨minute, _⟩, -, _, -, ⟨second, _⟩, -, ⟨nanos, _⟩, -, _, -, _, -, h⟩ := h
  split at h
  · next hvalid =>
    cases h
    exact hvalid.wellFormed_toInstant rfl
  · cases h

end Reader

theorem wellFormed_of_ofText? {s : String} {t : Instant} (h : ofText? s = some t) :
    t.WellFormed := by
  simp only [ofText?, Option.or_eq_some_iff] at h
  rcases h with h | ⟨-, h | ⟨-, h⟩⟩
  · exact Reader.wellFormed_of_rfc3339? h
  · exact Reader.wellFormed_of_naive? h
  · exact Reader.wellFormed_of_naive? h

theorem wellFormed_of_ofEpochSeconds? {n : Int} {t : Instant} (h : ofEpochSeconds? n = some t) :
    t.WellFormed := by
  rw [ofEpochSeconds?] at h
  split at h
  · cases h
    exact Or.inl (Nat.zero_lt_succ _)
  · cases h

end Instant

end DocumentClient
