import DocumentClient.Proofs.Instant.Figures

/-!
Instants written as text and read again.  The reader of years with a sign knows no zone, so an
instant is read back just if its year is written without a sign.
-/

namespace DocumentClient.Instant

open Text Reader

theorem chars_zulu (t : Instant) :
    t.chars "Z" = yearText t.reading.date.year ++ '-' :: (paddedDigits 2 t.reading.date.month ++
      '-' :: (paddedDigits 2 t.reading.date.day ++ 'T' :: (paddedDigits 2 t.reading.hour ++
        ':' :: (paddedDigits 2 t.reading.minute ++ ':' :: (paddedDigits 2 t.reading.second ++
          (fractionText t.reading.nanos ++ ['Z'])))))) := by
  simp [chars]

def FourDigitYear (t : Instant) : Prop := 0 ≤ t.reading.date.year ∧ t.reading.date.year ≤ 9999

instance (t : Instant) : Decidable t.FourDigitYear := by
  unfold FourDigitYear
  infer_instance

theorem yearText_of_fourDigitYear {t : Instant} (h : t.FourDigitYear) :
    yearText t.reading.date.year = paddedDigits 4 t.reading.date.year.natAbs :=
  if_pos h

theorem offset?_zulu : offset? ['Z'] = some (0, []) := rfl

theorem nanos?_zulu {nanos : Nat} (h : nanos < 1000000000) :
    nanos? (fractionText nanos ++ ['Z']) = some (nanos, ['Z']) := by
  apply nanos?_fractionText h
  simp

theorem chars_zulu_eq_stamp {t : Instant} (hyear : t.FourDigitYear) :
    t.chars "Z" = t.reading.stamp 'T' (fractionText t.reading.nanos ++ ['Z']) := by
  rw [chars_zulu, yearText_of_fourDigitYear hyear]
  rfl

theorem rfc3339?_zulu {t : Instant} (h : t.WellFormed) (hyear : t.FourDigitYear) :
    rfc3339? (t.chars "Z") = some t := by
  have hvalid := valid_reading h
  have hletter : isDateEnd 'T' = true := rfl
  rw [chars_zulu_eq_stamp hyear, rfc3339?_stamp hvalid hyear hletter (nanos?_zulu hvalid.2.2.2.2),
    offset?_zulu, Option.bind_some, if_pos rfl, toInstant_reading h]

theorem rfc3339?_of_not_isDigit {c : Char} (hc : c.isDigit = false) (s : List Char) :
    rfc3339? (c :: s) = none := by
  rw [rfc3339?, digits?_of_not_isDigit hc (by decide)]
  rfl

theorem yearText_of_not_fourDigitYear {t : Instant} (h : ¬ t.FourDigitYear) :
    ∃ sign, (sign = '-' ∨ sign = '+') ∧
      yearText t.reading.date.year = sign :: paddedDigits 4 t.reading.date.year.natAbs := by
  refine ⟨_, ?_, if_neg h⟩
  split
  · exact Or.inl rfl
  · exact Or.inr rfl

theorem looseYear?_of_sign {sign : Char} (hsign : sign = '-' ∨ sign = '+') (n : Nat)
    (rest : List Char) :
    ∃ year, looseYear? (sign :: (paddedDigits 4 n ++ '-' :: rest)) = some (year, '-' :: rest) := by
  have hdigits : digits? 1 (paddedDigits 4 n ++ '-' :: rest).length
      (paddedDigits 4 n ++ '-' :: rest) = some (n, '-' :: rest) := by
    have hne := List.length_pos_of_ne_nil (paddedDigits_ne_nil 4 n)
    rw [digits?_append (fun c => isDigit_of_mem_paddedDigits) hne (by simp)
      (Or.inr (by simp)), ofDigits_paddedDigits]
  rcases hsign with rfl | rfl
  · have hblank : isBlank '-' = false := rfl
    refine ⟨-n, ?_⟩
    rw [looseYear?, List.dropWhile_cons_of_neg (by simp [hblank])]
    simp only [hdigits, Option.map_some]
  · have hblank : isBlank '+' = false := rfl
    refine ⟨n, ?_⟩
    rw [looseYear?, List.dropWhile_cons_of_neg (by simp [hblank])]
    simp only [hdigits, Option.map_some]

theorem naive?_of_not_fourDigitYear {t : Instant} (h : t.WellFormed) (hyear : ¬ t.FourDigitYear)
    (separator : Separator) : naive? separator (t.chars "Z") = none := by
  have hvalid := valid_reading h
  obtain ⟨hmonth, hday, hhour, hminute, hsecond⟩ := hvalid.lt_hundred
  have hfraction := nanos?_zulu hvalid.2.2.2.2
  obtain ⟨sign, hsign, htext⟩ := yearText_of_not_fourDigitYear hyear
  obtain ⟨year, hread⟩ := looseYear?_of_sign hsign t.reading.date.year.natAbs
    (paddedDigits 2 t.reading.date.month ++ '-' :: (paddedDigits 2 t.reading.date.day ++
      'T' :: (paddedDigits 2 t.reading.hour ++ ':' :: (paddedDigits 2 t.reading.minute ++
        ':' :: (paddedDigits 2 t.reading.second ++ (fractionText t.reading.nanos ++ ['Z']))))))
  rw [chars_zulu, htext, List.cons_append]
  cases separator with
  | blank =>
    simp only [naive?, hread, expect?_cons_self, loose?_two hmonth, loose?_two hday,
      Separator.skip?, loose?_of_letter, some_bind, none_bind]
  | letter =>
    have hrest : ¬ ['Z'] = [] := by simp
    simp only [naive?, hread, expect?_cons_self, loose?_two hmonth, loose?_two hday,
      Separator.skip?, loose?_two hhour, loose?_two hminute, loose?_two hsecond, hfraction,
      guard_bind_of_neg hrest, some_bind]

theorem ofText?_zuluText {t : Instant} (h : t.WellFormed) :
    ofText? t.zuluText = if t.FourDigitYear then some t else none := by
  rw [ofText?, zuluText, String.toList_ofList]
  split
  · next hyear =>
    rw [rfc3339?_zulu h hyear]
    rfl
  · next hyear =>
    obtain ⟨sign, hsign, htext⟩ := yearText_of_not_fourDigitYear hyear
    have hdigit : sign.isDigit = false := by
      rcases hsign with rfl | rfl <;> rfl
    have hrfc : rfc3339? (t.chars "Z") = none := by
      rw [chars_zulu, htext, List.cons_append, rfc3339?_of_not_isDigit hdigit]
    rw [hrfc, naive?_of_not_fourDigitYear h hyear, naive?_of_not_fourDigitYear h hyear]
    rfl

end DocumentClient.Instant
