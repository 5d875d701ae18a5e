import DocumentClient.Calendar
import Mathlib.Algebra.BigOperators.Intervals
import Mathlib.Tactic.Ring

namespace DocumentClient.Date

def yearLength (year : Int) : Int := if 4 ∣ year ∧ (100 ∣ year → 400 ∣ year) then 366 else 365

def monthStarts : List Int := [0, 31, 59, 90, 120, 151, 181, 212, 243, 273, 304, 334]

/-- The days from 1 January 1970 to a date: those of whole years, of whole months and of the month,
with the leap day once February is over. -/
def sinceEpoch (d : Date) : Int :=
  (∑ i ∈ Finset.range (d.year - 1970).toNat, yearLength (1970 + i)) -
      (∑ i ∈ Finset.range (1970 - d.year).toNat, yearLength (d.year + i)) +
    (monthStarts[d.month - 1]?).getD 0 + (if 2 < d.month then yearLength d.year - 365 else 0) +
    (d.day - 1)

theorem isLeap_iff {year : Int} :
    isLeap year = true ↔ 4 ∣ year ∧ (100 ∣ year → 400 ∣ year) := by
  simp only [isLeap, Bool.and_eq_true, Bool.or_eq_true, decide_eq_true_iff]
  omega

theorem yearLength_eq (year : Int) : yearLength year = if isLeap year then 366 else 365 := by
  simp only [yearLength, isLeap_iff]

theorem daysBeforeYear_eq (year : Int) :
    daysBeforeYear year =
      365 * (year - 1) + (year - 1) / 4 - (year - 1) / 100 + (year - 1) / 400 := rfl

theorem daysBeforeYear_succ (year : Int) :
    daysBeforeYear (year + 1) = daysBeforeYear year + yearLength year := by
  rw [daysBeforeYear_eq, daysBeforeYear_eq, yearLength]
  split <;> omega

/-- The guess from the mean length of a year is wrong by one year at most. -/
theorem daysBeforeYear_yearOf (n : Int) :
    daysBeforeYear (yearOf n) ≤ n ∧ n < daysBeforeYear (yearOf n + 1) := by
  have hlow : daysBeforeYear (n * 400 / 146097 + 1 - 1) ≤ n := by
    rw [daysBeforeYear_eq]
    omega
  have hhigh : n < daysBeforeYear (n * 400 / 146097 + 1 + 1 + 1) := by
    rw [daysBeforeYear_eq]
    omega
  unfold yearOf
  dsimp only
  split
  · next h => exact ⟨hlow, by rwa [Int.sub_add_cancel]⟩
  · next h =>
    split
    · next h' => exact ⟨h', hhigh⟩
    · next h' => exact ⟨Int.not_lt.1 h, Int.not_le.1 h'⟩

theorem daysBeforeYear_mono {y z : Int} (h : y ≤ z) : daysBeforeYear y ≤ daysBeforeYear z := by
  rw [daysBeforeYear_eq, daysBeforeYear_eq]
  omega

theorem yearOf_eq {n year : Int} (hfirst : daysBeforeYear year ≤ n)
    (hnext : n < daysBeforeYear (year + 1)) : yearOf n = year := by
  obtain ⟨hfirst', hnext'⟩ := daysBeforeYear_yearOf n
  rcases Int.lt_trichotomy (yearOf n) year with hlt | heq | hgt
  · have hle := daysBeforeYear_mono (Int.add_one_le_of_lt hlt)
    omega
  · exact heq
  · have hle := daysBeforeYear_mono (Int.add_one_le_of_lt hgt)
    omega

theorem walkMonths_spec (month : Nat) {n : Nat} {lengths : List Nat} (h : n < lengths.sum) :
    ∃ i, (walkMonths month lengths n).1 = month + i ∧
      1 ≤ (walkMonths month lengths n).2 ∧
      (walkMonths month lengths n).2 ≤ (lengths[i]?).getD 0 ∧
      (lengths.take i).sum + (walkMonths month lengths n).2 = n + 1 := by
  induction lengths generalizing month n with
  | nil => simp at h
  | cons l ls ih =>
    rw [walkMonths]
    split
    · next hl => exact ⟨0, rfl, by simp, by simpa using Nat.succ_le_of_lt hl, by simp⟩
    · next hl =>
      have hrest : n - l < ls.sum := by
        rw [List.sum_cons] at h
        omega
      obtain ⟨i, hmonth, hday, hlength, hsum⟩ := ih (month + 1) hrest
      refine ⟨i + 1, by omega, hday, by simpa using hlength, ?_⟩
      rw [List.take_succ_cons, List.sum_cons]
      omega

theorem walkMonths_eq (month : Nat) {n i l : Nat} {lengths : List Nat} (hl : lengths[i]? = some l)
    (hn : n < l) : walkMonths month lengths ((lengths.take i).sum + n) = (month + i, n + 1) := by
  induction lengths generalizing month i with
  | nil => simp at hl
  | cons k ks ih =>
    cases i with
    | zero =>
      obtain rfl : k = l := by simpa using hl
      simp [walkMonths, hn]
    | succ i =>
      have hskip : ¬ k + (ks.take i).sum + n < k := by omega
      have hrest : k + (ks.take i).sum + n - k = (ks.take i).sum + n := by omega
      rw [List.take_succ_cons, List.sum_cons, walkMonths, if_neg hskip, hrest,
        ih (month + 1) (by simpa using hl)]
      simp only [Nat.add_assoc, Nat.add_comm 1 i]

theorem sum_monthLengths (year : Int) :
    ((monthLengths (isLeap year)).sum : Int) = yearLength year := by
  cases h : isLeap year <;> simp [yearLength_eq, monthLengths, h]

theorem daysBeforeMonth_eq (leap : Bool) (month : Nat) :
    daysBeforeMonth leap month = ((monthLengths leap).take (month - 1)).sum := rfl

theorem ofDayNumber_spec (n : Int) :
    (ofDayNumber n).Valid ∧ (ofDayNumber n).dayNumber = n := by
  obtain ⟨hfirst, hnext⟩ := daysBeforeYear_yearOf (n + epochDays)
  rw [daysBeforeYear_succ, ← sum_monthLengths] at hnext
  have hrest : (n + epochDays - daysBeforeYear (yearOf (n + epochDays))).toNat <
      (monthLengths (isLeap (yearOf (n + epochDays)))).sum := by omega
  obtain ⟨i, hmonth, hpos, hlength, hsum⟩ := walkMonths_spec 1 hrest
  have hyear : (ofDayNumber n).year = yearOf (n + epochDays) := rfl
  change (ofDayNumber n).month = 1 + i at hmonth
  change 1 ≤ (ofDayNumber n).day at hpos
  change (ofDayNumber n).day ≤ _ at hlength
  change _ + (ofDayNumber n).day = _ at hsum
  constructor
  · rw [Valid, hmonth, hyear, Nat.add_sub_cancel_left]
    exact ⟨Nat.le_add_right 1 i, hpos, hlength⟩
  · rw [dayNumber, daysBeforeMonth_eq, hmonth, hyear, Nat.add_sub_cancel_left]
    omega

theorem valid_ofDayNumber (n : Int) : (ofDayNumber n).Valid := (ofDayNumber_spec n).1

@[simp] theorem dayNumber_ofDayNumber (n : Int) : (ofDayNumber n).dayNumber = n :=
  (ofDayNumber_spec n).2

theorem Valid.exists_length {d : Date} (h : d.Valid) :
    ∃ l, (monthLengths (isLeap d.year))[d.month - 1]? = some l ∧ d.day ≤ l := by
  obtain ⟨-, hpos, hle⟩ := h
  cases hl : (monthLengths (isLeap d.year))[d.month - 1]? with
  | none =>
    rw [hl, Option.getD_none] at hle
    omega
  | some l =>
    rw [hl, Option.getD_some] at hle
    exact ⟨l, rfl, hle⟩

theorem Valid.month_le {d : Date} (h : d.Valid) : d.month ≤ 12 := by
  obtain ⟨l, hl, -⟩ := h.exists_length
  obtain ⟨hlt, -⟩ := List.getElem?_eq_some_iff.1 hl
  simp only [monthLengths, List.length_cons, List.length_nil] at hlt
  omega

theorem Valid.day_le {d : Date} (h : d.Valid) : d.day ≤ 31 := by
  obtain ⟨l, hl, hday⟩ := h.exists_length
  have hall : ∀ l ∈ monthLengths (isLeap d.year), l ≤ 31 := by
    cases isLeap d.year <;> decide
  exact Nat.le_trans hday (hall l (List.mem_of_getElem? hl))

theorem Valid.lt_yearLength {d : Date} (h : d.Valid) :
    (daysBeforeMonth (isLeap d.year) d.month + d.day - 1 : Int) < yearLength d.year := by
  obtain ⟨l, hl, hday⟩ := h.exists_length
  obtain ⟨hi, rfl⟩ := List.getElem?_eq_some_iff.1 hl
  have hsum := List.sum_take_add_sum_drop (monthLengths (isLeap d.year)) (d.month - 1)
  rw [List.drop_eq_getElem_cons hi, List.sum_cons] at hsum
  rw [← sum_monthLengths, daysBeforeMonth_eq]
  omega

theorem Valid.dayNumber_bounds {d : Date} (h : d.Valid) :
    daysBeforeYear d.year ≤ d.dayNumber + epochDays ∧
      d.dayNumber + epochDays < daysBeforeYear (d.year + 1) := by
  have hlt := h.lt_yearLength
  have hpos := h.2.1
  rw [daysBeforeYear_succ, dayNumber]
  omega

theorem Valid.ofDayNumber_dayNumber {d : Date} (h : d.Valid) : ofDayNumber d.dayNumber = d := by
  have hyear : yearOf (d.dayNumber + epochDays) = d.year :=
    yearOf_eq h.dayNumber_bounds.1 h.dayNumber_bounds.2
  obtain ⟨l, hl, hday⟩ := h.exists_length
  obtain ⟨hmonth, hpos, -⟩ := h
  have hrest : (d.dayNumber + epochDays - daysBeforeYear d.year).toNat =
      ((monthLengths (isLeap d.year)).take (d.month - 1)).sum + (d.day - 1) := by
    rw [dayNumber, daysBeforeMonth_eq]
    omega
  rw [ofDayNumber]
  simp only [hyear, hrest, walkMonths_eq 1 hl (by omega : d.day - 1 < l)]
  obtain ⟨year, month, day⟩ := d
  simp only [Date.mk.injEq, true_and]
  dsimp only at hmonth hpos
  omega

theorem sum_yearLength (year : Int) (n : Nat) :
    ∑ i ∈ Finset.range n, yearLength (year + i) =
      daysBeforeYear (year + n) - daysBeforeYear year := by
  induction n with
  | zero => simp
  | succ n ih =>
    rw [Finset.sum_range_succ, ih, Nat.cast_succ, ← add_assoc, daysBeforeYear_succ]
    ring

theorem daysBeforeMonth_eq_monthStarts (year : Int) {month : Nat} (hpos : 1 ≤ month)
    (hle : month ≤ 12) :
    (daysBeforeMonth (isLeap year) month : Int) =
      (monthStarts[month - 1]?).getD 0 + if 2 < month then yearLength year - 365 else 0 := by
  have htable : ∀ leap, ∀ i < 12, (daysBeforeMonth leap (i + 1) : Int) =
      (monthStarts[i]?).getD 0 + if 1 < i ∧ leap = true then 1 else 0 := by decide
  obtain ⟨i, rfl⟩ := Nat.exists_eq_add_of_le' hpos
  have hmarch : 2 < i + 1 ↔ 1 < i := Nat.succ_lt_succ_iff
  rw [htable _ i (by omega), yearLength_eq, Nat.add_sub_cancel, if_congr hmarch rfl rfl]
  cases isLeap year <;> simp

theorem sum_yearLength_epoch (year : Int) :
    (∑ i ∈ Finset.range (year - 1970).toNat, yearLength (1970 + i)) -
      (∑ i ∈ Finset.range (1970 - year).toNat, yearLength (year + i)) =
        daysBeforeYear year - epochDays := by
  have hepoch : daysBeforeYear 1970 = epochDays := rfl
  rw [sum_yearLength, sum_yearLength, hepoch]
  rcases Int.le_total 1970 year with h | h
  · have hafter : (1970 + (year - 1970).toNat : Int) = year := by omega
    have hbefore : (year + (1970 - year).toNat : Int) = year := by omega
    rw [hafter, hbefore]
    ring
  · have hafter : (1970 + (year - 1970).toNat : Int) = 1970 := by omega
    have hbefore : (year + (1970 - year).toNat : Int) = 1970 := by omega
    rw [hafter, hbefore, hepoch]
    ring

theorem Valid.dayNumber_eq {d : Date} (h : d.Valid) : d.dayNumber = d.sinceEpoch := by
  rw [dayNumber, sinceEpoch, sum_yearLength_epoch,
    daysBeforeMonth_eq_monthStarts d.year h.1 h.month_le]
  ring

end DocumentClient.Date
