import Mathlib.Algebra.Ring.Nat
import Lombok.Core.Values

/-!
Contract: two dates with one ISO text are the same date, and reading the text of
a date gives the date back.

The text fixes year, month, day and the time of the day, each in as many digits
as it needs, and a Gregorian date belongs to one day.

Does not own: reading texts that `toISOString` does not print.
-/

namespace Lombok.Core.Date

/-! ### Gregorian dates -/

theorem yearOfEra_bounds {dayOfEra : Int} (low : 0 ≤ dayOfEra) (high : dayOfEra < daysPerEra) :
    0 ≤ (dayOfEra - dayOfEra / 1460 + dayOfEra / 36524 - dayOfEra / 146096) / 365 ∧
      (dayOfEra - dayOfEra / 1460 + dayOfEra / 36524 - dayOfEra / 146096) / 365 ≤ 399 := by
  unfold daysPerEra at high
  omega

theorem dayOfYear_bounds {dayOfEra yearOfEra : Int} (low : 0 ≤ dayOfEra)
    (high : dayOfEra < daysPerEra)
    (isYear : yearOfEra =
      (dayOfEra - dayOfEra / 1460 + dayOfEra / 36524 - dayOfEra / 146096) / 365) :
    0 ≤ dayOfEra - (365 * yearOfEra + yearOfEra / 4 - yearOfEra / 100) ∧
      dayOfEra - (365 * yearOfEra + yearOfEra / 4 - yearOfEra / 100) ≤ 366 := by
  unfold daysPerEra at high
  have century : dayOfEra / 36524 = 0 ∨ dayOfEra / 36524 = 1 ∨ dayOfEra / 36524 = 2 ∨
      dayOfEra / 36524 = 3 ∨ dayOfEra / 36524 = 4 := by omega
  have lastDay : dayOfEra / 146096 = 0 ∨ dayOfEra / 146096 = 1 := by omega
  have yearCentury : yearOfEra / 100 = 0 ∨ yearOfEra / 100 = 1 ∨ yearOfEra / 100 = 2 ∨
      yearOfEra / 100 = 3 := by omega
  -- The leap days counted by days and by years differ by at most one.
  rcases lastDay with lastDay | lastDay
  · omega
  · omega

/-- What the conversion to a Gregorian date comes to. -/
structure CivilOf (days year month day : Int) : Prop where
  readBack : daysOfCivil year month day = days
  monthBounds : 1 ≤ month ∧ month ≤ 12
  dayBounds : 1 ≤ day ∧ day ≤ 31
  yearBounds : (days + 719468) / daysPerEra * 400 ≤ year ∧
    year ≤ (days + 719468) / daysPerEra * 400 + 400

theorem civilOfDays_spec (days : Int) :
    CivilOf days (civilOfDays days).1 (civilOfDays days).2.1 (civilOfDays days).2.2 := by
  unfold civilOfDays
  dsimp only
  generalize isEra : (days + 719468) / daysPerEra = era
  generalize isDayOfEra : days + 719468 - era * daysPerEra = dayOfEra
  have low : 0 ≤ dayOfEra := by
    unfold daysPerEra at isEra isDayOfEra
    omega
  have high : dayOfEra < daysPerEra := by
    unfold daysPerEra at isEra isDayOfEra ⊢
    omega
  have yearBounds := yearOfEra_bounds low high
  generalize isYear :
    (dayOfEra - dayOfEra / 1460 + dayOfEra / 36524 - dayOfEra / 146096) / 365 = yearOfEra
    at yearBounds ⊢
  have dayBounds := dayOfYear_bounds low high isYear.symm
  generalize isDay :
    dayOfEra - (365 * yearOfEra + yearOfEra / 4 - yearOfEra / 100) = dayOfYear at dayBounds ⊢
  generalize isMonth : (5 * dayOfYear + 2) / 153 = shiftedMonth
  refine ⟨?_, ?_, ?_, ?_⟩
  · unfold daysOfCivil
    dsimp only
    by_cases early : shiftedMonth < 10
    · have shiftedYear : (yearOfEra + era * 400) / 400 = era := by omega
      have restYear : yearOfEra + era * 400 - era * 400 = yearOfEra := by omega
      have restMonth : shiftedMonth + 3 - 3 = shiftedMonth := by omega
      have notBefore : ¬ shiftedMonth + 3 ≤ 2 := by omega
      have after : shiftedMonth + 3 > 2 := by omega
      rw [if_pos early, if_neg notBefore, if_neg notBefore, if_pos after, Int.add_zero, shiftedYear,
        restYear, restMonth]
      omega
    · have shiftedYear : (yearOfEra + era * 400 + 1 - 1) / 400 = era := by omega
      have restYear : yearOfEra + era * 400 + 1 - 1 - era * 400 = yearOfEra := by omega
      have restMonth : shiftedMonth - 9 + 9 = shiftedMonth := by omega
      have before : shiftedMonth - 9 ≤ 2 := by omega
      have notAfter : ¬ shiftedMonth - 9 > 2 := by omega
      rw [if_neg early, if_pos before, if_pos before, if_neg notAfter, shiftedYear, restYear,
        restMonth]
      omega
  · split <;> omega
  · omega
  · split <;> omega

/-! ### Digits -/

theorem digit_injective {value other : Nat} (same : digit value = digit other) :
    value % 10 = other % 10 := by
  unfold digit at same
  have read := congrArg Char.toNat same
  have valid : ∀ rest < 10, (Char.ofNat (48 + rest)).toNat = 48 + rest := by decide
  grind

@[simp] theorem digits_length (width value : Nat) : (digits width value).length = width := by
  induction width generalizing value with
  | zero => rfl
  | succ width inductionHypothesis => simp [digits, inductionHypothesis]

theorem digits_injective {width value other : Nat} (fits : value < 10 ^ width)
    (otherFits : other < 10 ^ width) (same : digits width value = digits width other) :
    value = other := by
  induction width generalizing value other with
  | zero => omega
  | succ width inductionHypothesis =>
      obtain ⟨sameFront, sameLast⟩ := List.append_inj' same rfl
      have lastDigit := digit_injective (List.cons.inj sameLast).1
      grind

theorem yearText_injective {year other : Int} (bounds : -1000000 < year ∧ year < 1000000)
    (otherBounds : -1000000 < other ∧ other < 1000000) (same : yearText year = yearText other) :
    year = other := by
  unfold yearText at same
  have sameLength := congrArg List.length same
  by_cases short : 0 ≤ year ∧ year ≤ 9999 <;> by_cases otherShort : 0 ≤ other ∧ other ≤ 9999
  · rw [if_pos short, if_pos otherShort] at same
    have equal := digits_injective (by omega) (by omega) same
    omega
  · rw [if_pos short, if_neg otherShort] at sameLength
    by_cases otherLate : 0 ≤ other <;> simp [otherLate] at sameLength
  · rw [if_neg short, if_pos otherShort] at sameLength
    by_cases late : 0 ≤ year <;> simp [late] at sameLength
  · rw [if_neg short, if_neg otherShort] at same
    by_cases late : 0 ≤ year <;> by_cases otherLate : 0 ≤ other
    · rw [if_pos late, if_pos otherLate] at same
      have equal := digits_injective (by omega) (by omega) (List.cons.inj same).2
      omega
    · grind
    · grind
    · rw [if_neg late, if_neg otherLate] at same
      have equal := digits_injective (by omega) (by omega) (List.cons.inj same).2
      omega

/-! ### ISO texts -/

/-- The text of a date and a time of day, in its parts. -/
def isoText (year : Int) (month day hour minute second milli : Nat) : List Char :=
  yearText year ++ '-' :: (digits 2 month ++ '-' :: (digits 2 day ++ 'T' :: (digits 2 hour ++
    ':' :: (digits 2 minute ++ ':' :: (digits 2 second ++ '.' :: (digits 3 milli ++ ['Z']))))))

theorem isoText_injective {year year' : Int} {month day hour minute second milli : Nat}
    {month' day' hour' minute' second' milli' : Nat}
    (same : isoText year month day hour minute second milli =
      isoText year' month' day' hour' minute' second' milli') :
    yearText year = yearText year' ∧ digits 2 month = digits 2 month' ∧
      digits 2 day = digits 2 day' ∧ digits 2 hour = digits 2 hour' ∧
      digits 2 minute = digits 2 minute' ∧ digits 2 second = digits 2 second' ∧
      digits 3 milli = digits 3 milli' := by
  obtain ⟨sameYear, same⟩ := List.append_inj' same (by simp)
  obtain ⟨sameMonth, same⟩ := List.append_inj (List.cons.inj same).2 (by simp)
  obtain ⟨sameDay, same⟩ := List.append_inj (List.cons.inj same).2 (by simp)
  obtain ⟨sameHour, same⟩ := List.append_inj (List.cons.inj same).2 (by simp)
  obtain ⟨sameMinute, same⟩ := List.append_inj (List.cons.inj same).2 (by simp)
  obtain ⟨sameSecond, same⟩ := List.append_inj (List.cons.inj same).2 (by simp)
  obtain ⟨sameMilli, _⟩ := List.append_inj (List.cons.inj same).2 (by simp)
  exact ⟨sameYear, sameMonth, sameDay, sameHour, sameMinute, sameSecond, sameMilli⟩

theorem toISOString_eq_ok {date : Int} {text : String} (printed : toISOString date = .ok text) :
    (-maxTime ≤ date ∧ date ≤ maxTime) ∧
      text.toList = isoText (civilOfDays (date / 86400000)).1
        (civilOfDays (date / 86400000)).2.1.toNat (civilOfDays (date / 86400000)).2.2.toNat
        ((date % 86400000).toNat / 3600000) ((date % 86400000).toNat / 60000 % 60)
        ((date % 86400000).toNat / 1000 % 60) ((date % 86400000).toNat % 1000) := by
  unfold toISOString at printed
  split at printed
  · cases printed
  · rename_i valid
    rw [not_or, Int.not_lt, Int.not_lt] at valid
    grind [String.toList_ofList, isoText]

/-- Dates are told apart by their ISO texts. -/
theorem toISOString_injective {date other : Int} {text : String}
    (printed : toISOString date = .ok text) (otherPrinted : toISOString other = .ok text) :
    date = other := by
  obtain ⟨valid, parts⟩ := toISOString_eq_ok printed
  obtain ⟨otherValid, otherParts⟩ := toISOString_eq_ok otherPrinted
  have civil := civilOfDays_spec (date / 86400000)
  have otherCivil := civilOfDays_spec (other / 86400000)
  have limit : maxTime = 8640000000000000 := rfl
  obtain ⟨sameYear, sameMonth, sameDay, sameHour, sameMinute, sameSecond, sameMilli⟩ :=
    isoText_injective (parts.symm.trans otherParts)
  obtain ⟨readBack, month, day, year⟩ := civil
  obtain ⟨otherReadBack, otherMonth, otherDay, otherYear⟩ := otherCivil
  unfold daysPerEra at year otherYear
  have yearEqual := yearText_injective (by omega) (by omega) sameYear
  have monthEqual := digits_injective (by omega) (by omega) sameMonth
  have dayEqual := digits_injective (by omega) (by omega) sameDay
  have hourEqual := digits_injective (by omega) (by omega) sameHour
  have minuteEqual := digits_injective (by omega) (by omega) sameMinute
  have secondEqual := digits_injective (by omega) (by omega) sameSecond
  have milliEqual := digits_injective (by omega) (by omega) sameMilli
  grind

/-! ### Reading a text -/

theorem digit_toNat (value : Nat) : (digit value).toNat = 48 + value % 10 := by
  have valid : ∀ rest < 10, (Char.ofNat (48 + rest)).toNat = 48 + rest := by decide
  exact valid _ (Nat.mod_lt _ (by omega))

theorem ofDigits_append (front : List Char) (last : Char) :
    ofDigits (front ++ [last]) = ofDigits front * 10 + (last.toNat - 48 : Int) := by
  rw [ofDigits, List.foldl_append]
  rfl

theorem ofDigits_digits {width value : Nat} (fits : value < 10 ^ width) :
    ofDigits (digits width value) = value := by
  induction width generalizing value with
  | zero =>
      have isZero : value = 0 := by omega
      rw [isZero]
      rfl
  | succ width inductionHypothesis =>
      rw [digits, ofDigits_append, inductionHypothesis (by omega), digit_toNat]
      omega

theorem ofParts_digits (year : Int) (month day hour minute second milli : Nat) :
    ofParts year ('-' :: (digits 2 month ++ '-' :: (digits 2 day ++ 'T' :: (digits 2 hour ++
      ':' :: (digits 2 minute ++ ':' :: (digits 2 second ++ '.' :: (digits 3 milli ++ ['Z']))))))) =
      some (daysOfCivil year (ofDigits (digits 2 month)) (ofDigits (digits 2 day)) * 86400000 +
        ofDigits (digits 2 hour) * 3600000 + ofDigits (digits 2 minute) * 60000 +
        ofDigits (digits 2 second) * 1000 + ofDigits (digits 3 milli)) := rfl

theorem parse_shortYear {text : String} {y1 y2 y3 y4 : Char} {rest : List Char}
    (characters : text.toList = y1 :: y2 :: y3 :: y4 :: rest) (notPlus : y1 ≠ '+')
    (notMinus : y1 ≠ '-') : parse text = ofParts (ofDigits [y1, y2, y3, y4]) rest := by
  rw [parse, characters]
  split
  · rename_i same
    exact absurd (List.cons.inj same).1 notPlus
  · rename_i same
    exact absurd (List.cons.inj same).1 notMinus
  · rename_i same
    cases same
    rfl
  · grind

theorem digit_notSign (value : Nat) : digit value ≠ '+' ∧ digit value ≠ '-' := by
  have isDigit := digit_toNat value
  refine ⟨?_, ?_⟩
  · intro same
    rw [same] at isDigit
    exact absurd isDigit (by simp +decide; omega)
  · intro same
    rw [same] at isDigit
    exact absurd isDigit (by simp +decide; omega)

/-- A text is read by its year and its parts, whichever way the year is written. -/
theorem parse_isoText {text : String} {year : Int} {month day hour minute second milli : Nat}
    (bounds : -1000000 < year ∧ year < 1000000)
    (printed : text.toList = isoText year month day hour minute second milli) :
    parse text =
      some (daysOfCivil year (ofDigits (digits 2 month)) (ofDigits (digits 2 day)) * 86400000 +
        ofDigits (digits 2 hour) * 3600000 + ofDigits (digits 2 minute) * 60000 +
        ofDigits (digits 2 second) * 1000 + ofDigits (digits 3 milli)) := by
  unfold isoText yearText at printed
  split at printed
  · have notSign := digit_notSign (year.toNat / 10 / 10 / 10)
    have read := @ofDigits_digits 4 year.toNat (by omega)
    rw [parse_shortYear printed notSign.1 notSign.2]
    show ofParts (ofDigits (digits 4 year.toNat)) _ = _
    rw [read, Int.toNat_of_nonneg (by omega)]
    exact ofParts_digits year month day hour minute second milli
  split at printed
  · have read := @ofDigits_digits 6 year.toNat (by omega)
    rw [parse, printed]
    show ofParts (ofDigits (digits 6 year.toNat)) _ = _
    rw [read, Int.toNat_of_nonneg (by omega)]
    exact ofParts_digits year month day hour minute second milli
  · have read := @ofDigits_digits 6 (-year).toNat (by omega)
    rw [parse, printed]
    show ofParts (-ofDigits (digits 6 (-year).toNat)) _ = _
    rw [read, Int.toNat_of_nonneg (by omega), Int.neg_neg]
    exact ofParts_digits year month day hour minute second milli

/-- Reading the text that was printed for a date. -/
theorem parse_toISOString {date : Int} {text : String} (printed : toISOString date = .ok text) :
    parse text = some date := by
  obtain ⟨valid, parts⟩ := toISOString_eq_ok printed
  obtain ⟨readBack, month, day, year⟩ := civilOfDays_spec (date / 86400000)
  have limit : maxTime = 8640000000000000 := rfl
  unfold daysPerEra at year
  rw [parse_isoText (by omega) parts, ofDigits_digits (by omega), ofDigits_digits (by omega),
    ofDigits_digits (by omega), ofDigits_digits (by omega), ofDigits_digits (by omega),
    ofDigits_digits (by omega), Int.toNat_of_nonneg (by omega), Int.toNat_of_nonneg (by omega),
    readBack]
  congr 1
  omega

end Lombok.Core.Date
