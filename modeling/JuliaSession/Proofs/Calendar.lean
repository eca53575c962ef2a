import Mathlib.Data.Int.DivMod
import Mathlib.Data.Nat.Digits.Defs
import Mathlib.Tactic.IntervalCases
import Mathlib.Tactic.SplitIfs
import JuliaSession.Clock

/-!
# Moments and their texts

The date of a day has the day's number back, so different days have different dates. A moment in the
name of a file is written in a fixed number of characters, and tells seconds apart.

* `Clock.days_date`: from a day to its date and back.
* `Clock.length_padded`, `Clock.padded_inj`: numbers in digits of the given width.
* `Clock.toList_fileStamp`: the parts of a moment in the name of a file.
* `Clock.fileStamp_eq_iff`: two moments have the same text exactly if they are in the same second.
-/

namespace JuliaSession.Clock

/-! ### Days -/

/-- The day of a year of an era: the years before it take no more days than there are, and leave no
more than a year. -/
theorem yearOfEra_bounds {day year : Nat} (hday : day < 146097)
    (hyear : (day - day / 1460 + day / 36524 - day / 146096) / 365 = year) :
    year < 400 ∧ 365 * year + year / 4 - year / 100 ≤ day ∧
      day ≤ 365 * year + year / 4 - year / 100 + 365 := by
  have hlt : year < 400 := by omega
  have hcentury : year / 100 < 4 := by omega
  have hcenturies : day / 36524 < 5 := by omega
  have hera : day / 146096 < 2 := by omega
  generalize hc : year / 100 = century at *
  generalize hd : day / 36524 = centuries at *
  generalize he : day / 146096 = era at *
  -- the estimate of the year is exact century by century
  interval_cases century <;> interval_cases centuries <;> interval_cases era <;> omega

/-- The day of a year is that of its month and day. -/
theorem dayOfYear_eq {rest : Nat} (h : rest ≤ 365) :
    (5 * rest + 2) / 153 < 12 ∧
      (153 * ((5 * rest + 2) / 153) + 2) / 5 + (rest - (153 * ((5 * rest + 2) / 153) + 2) / 5 + 1) =
        rest + 1 := by
  omega

/-- The steps from a day to its date. -/
theorem date_eq (days : Int) :
    ∃ day year rest month : Nat, ((days + 719468).fmod 146097).toNat = day ∧
      (day - day / 1460 + day / 36524 - day / 146096) / 365 = year ∧
        day - (365 * year + year / 4 - year / 100) = rest ∧ (5 * rest + 2) / 153 = month ∧
          date days = ⟨(days + 719468).fdiv 146097 * 400 + year +
              if (if month < 10 then month + 3 else month - 9) ≤ 2 then 1 else 0,
            if month < 10 then month + 3 else month - 9, rest - (153 * month + 2) / 5 + 1⟩ :=
  ⟨_, _, _, _, rfl, rfl, rfl, rfl, rfl⟩

/-- From a day to its date and back. -/
theorem days_date (days : Int) : (date days).days = days := by
  -- days are counted from a day in March of year 0, and eras have 146097 days
  have hera := Int.mul_fdiv_add_fmod (days + 719468) 146097
  have hlow : 0 ≤ (days + 719468).fmod 146097 := Int.fmod_nonneg_of_pos _ (by decide)
  have hhigh := Int.fmod_lt_of_pos (days + 719468) (show (0 : Int) < 146097 by decide)
  obtain ⟨day, year, rest, month, hday, hyear, hrest, hmonth, hdate⟩ := date_eq days
  have hlt : day < 146097 := by omega
  obtain ⟨hyears, hle, hge⟩ := yearOfEra_bounds hlt hyear
  -- the day of the era is the days of its years before and the rest
  have hback : 365 * year + year / 4 - year / 100 + rest = day := by omega
  obtain ⟨hmonths, hofMonth⟩ := @dayOfYear_eq rest (by omega)
  rw [hmonth] at hmonths hofMonth
  rw [hdate]
  unfold Date.days
  -- the era is a whole number of 400 years, so it plays no part in the date within it
  generalize (days + 719468).fdiv 146097 = era at hera ⊢
  have hera' : era * 146097 + day = days + 719468 := by omega
  have hfdiv : (era * 400 + (year : Int)).fdiv 400 = era := by
    rw [Int.fdiv_eq_ediv_of_nonneg _ (by decide)]
    omega
  have hfmod : (era * 400 + (year : Int)).fmod 400 = year := by
    rw [Int.fmod_eq_emod_of_nonneg _ (by decide)]
    omega
  -- from here on only the day of the year and the month are at stake
  clear hyear hrest hmonth hday hlow hhigh hera hdate
  dsimp only
  -- January and February belong to the year after the one that their months are counted in
  by_cases hmonth : month < 10
  · have hnot : ¬ month + 3 ≤ 2 := by omega
    simp only [hmonth, if_true, hnot, if_false, Int.add_zero, hfdiv, hfmod]
    omega
  · have hle : month - 9 ≤ 2 := by omega
    simp only [hmonth, if_false, hle, if_true, Int.add_sub_cancel, hfdiv, hfmod]
    omega

/-- Different days have different dates. -/
theorem date_inj {days other : Int} : date days = date other ↔ days = other := by
  refine ⟨fun h => ?_, congrArg date⟩
  rw [← days_date days, h, days_date]

/-- Months and days are written in two digits. -/
theorem month_day_lt (days : Int) : (date days).month < 100 ∧ (date days).day < 100 := by
  obtain ⟨day, year, rest, month, hday, hyear, hrest, hmonth, hdate⟩ := date_eq days
  have hhigh := Int.fmod_lt_of_pos (days + 719468) (show (0 : Int) < 146097 by decide)
  obtain ⟨-, hle, hge⟩ := yearOfEra_bounds (by omega) hyear
  obtain ⟨hmonths, hofMonth⟩ := @dayOfYear_eq rest (by omega)
  rw [hmonth] at hmonths hofMonth
  rw [hdate]
  dsimp only
  constructor
  · split_ifs <;> omega
  · omega

/-! ### Numbers in digits -/

/-- A number that fits is written in digits of the given width. -/
theorem length_padded {width n : Nat} (hwidth : 0 < width) (hn : n < 10 ^ width) :
    (padded width n).toList.length = width := by
  have hle : (toString n).length ≤ width := Nat.repr_length n width hwidth hn
  unfold padded
  rw [String.toList_append, String.toList_ofList, List.length_append, List.length_replicate,
    String.length_toList]
  omega

theorem ofDigitChars_padded (width n : Nat) :
    Nat.ofDigitChars 10 (padded width n).toList 0 = n := by
  have hzeros (count : Nat) : Nat.ofDigitChars 10 (List.replicate count '0') 0 = 0 := by
    induction count with
    | zero => rfl
    | succ count ih => rw [List.replicate_succ, Nat.ofDigitChars_cons]; exact ih
  unfold padded
  rw [String.toList_append, String.toList_ofList, Nat.ofDigitChars_append, hzeros,
    Nat.toString_eq_ofList_toDigits, String.toList_ofList]
  exact Nat.ofDigitChars_toDigits (by decide) (by decide)

/-- Different numbers are written differently. -/
theorem padded_inj {width m n : Nat} :
    (padded width m).toList = (padded width n).toList ↔ m = n := by
  refine ⟨fun h => ?_, fun h => by rw [h]⟩
  rw [← ofDigitChars_padded width m, h, ofDigitChars_padded]

theorem not_mem_padded {c : Char} (hc : c.isDigit = false) (width n : Nat) :
    c ∉ (padded width n).toList := by
  unfold padded
  rw [String.toList_append, String.toList_ofList, List.mem_append]
  rintro (hmem | hmem)
  · rw [List.eq_of_mem_replicate hmem] at hc
    cases hc
  · rw [Nat.toString_eq_ofList_toDigits, String.toList_ofList] at hmem
    rw [Nat.isDigit_of_mem_toDigits (by decide) (by decide) hmem] at hc
    cases hc

/-! ### Moments -/

/-- The day of a moment. -/
def dayOf (moment : Millis) : Int := (moment.fdiv 1000).fdiv 86400

/-- The second of the day of a moment. -/
def secondOf (moment : Millis) : Nat := ((moment.fdiv 1000).fmod 86400).toNat

theorem secondOf_lt (moment : Millis) : secondOf moment < 86400 := by
  have hlt := Int.fmod_lt_of_pos (moment.fdiv 1000) (show (0 : Int) < 86400 by decide)
  unfold secondOf
  omega

/-- Day and second of the day make the second of a moment. -/
theorem dayOf_secondOf (moment : Millis) :
    dayOf moment * 86400 + secondOf moment = moment.fdiv 1000 := by
  have hsum := Int.mul_fdiv_add_fmod (moment.fdiv 1000) 86400
  have hlow : 0 ≤ (moment.fdiv 1000).fmod 86400 := Int.fmod_nonneg_of_pos _ (by decide)
  unfold dayOf secondOf
  omega

/-- The year of a moment is that of its day. -/
theorem year_eq (moment : Millis) : year moment = (date (dayOf moment)).year := by
  unfold year dayOf
  rw [Int.fdiv_fdiv_eq_fdiv_mul moment (by decide) (by decide)]
  rfl

theorem toList_fileStamp (moment : Millis) :
    (fileStamp moment).toList =
      (padded 4 (date (dayOf moment)).year.toNat).toList ++ '-' ::
        ((padded 2 (date (dayOf moment)).month).toList ++ '-' ::
          ((padded 2 (date (dayOf moment)).day).toList ++ 'T' ::
            ((padded 2 (secondOf moment / 3600)).toList ++
              ((padded 2 (secondOf moment / 60 % 60)).toList ++
                (padded 2 (secondOf moment % 60)).toList)))) := by
  unfold fileStamp dateTime dayOf secondOf
  simp

/-- There are digits and two other characters in the name of a file. -/
theorem not_mem_fileStamp {c : Char} (hc : c.isDigit = false) (hdash : c ≠ '-') (htime : c ≠ 'T')
    (moment : Millis) : c ∉ (fileStamp moment).toList := by
  rw [toList_fileStamp]
  simp [not_mem_padded hc, hdash, htime]

variable {moment other : Millis}

theorem one_le_year (h : isWritable (year moment) = true) : 1 ≤ (date (dayOf moment)).year := by
  unfold isWritable at h
  rw [year_eq, Bool.and_eq_true, decide_eq_true_eq] at h
  exact h.1

theorem length_year (h : isWritable (year moment) = true) :
    (padded 4 (date (dayOf moment)).year.toNat).toList.length = 4 := by
  unfold isWritable at h
  rw [year_eq, Bool.and_eq_true, decide_eq_true_eq, decide_eq_true_eq] at h
  exact length_padded (by decide) (by omega)

theorem length_padded_two {n : Nat} (h : n < 100) : (padded 2 n).toList.length = 2 :=
  length_padded (by decide) h

/-- A moment in the name of a file: four characters for the year and two for each of the other
parts. -/
theorem exists_toList_fileStamp (h : isWritable (year moment) = true) :
    ∃ year month day hour minute second : List Char, year.length = 4 ∧ month.length = 2 ∧
      day.length = 2 ∧ hour.length = 2 ∧ minute.length = 2 ∧ second.length = 2 ∧
      (fileStamp moment).toList =
        year ++ '-' :: (month ++ '-' :: (day ++ 'T' :: (hour ++ (minute ++ second)))) := by
  obtain ⟨hmonth, hday⟩ := month_day_lt (dayOf moment)
  have hsecond := secondOf_lt moment
  exact ⟨_, _, _, _, _, _, length_year h, length_padded_two hmonth, length_padded_two hday,
    length_padded_two (by omega), length_padded_two (by omega), length_padded_two (by omega),
    toList_fileStamp moment⟩

/-- Two moments have the same text exactly if they are in the same second. -/
theorem fileStamp_eq_iff (h : isWritable (year moment) = true)
    (hother : isWritable (year other) = true) :
    fileStamp moment = fileStamp other ↔ moment.fdiv 1000 = other.fdiv 1000 := by
  constructor
  · intro heq
    have htexts := congrArg String.toList heq
    rw [toList_fileStamp, toList_fileStamp] at htexts
    obtain ⟨hmonth, hday⟩ := month_day_lt (dayOf moment)
    obtain ⟨hmonth', hday'⟩ := month_day_lt (dayOf other)
    have hsecond := secondOf_lt moment
    have hsecond' := secondOf_lt other
    have htwo {m n : Nat} (hm : m < 100) (hn : n < 100) :
        (padded 2 m).toList.length = (padded 2 n).toList.length := by
      rw [length_padded_two hm, length_padded_two hn]
    -- the parts are as long in both texts, so they are the same one by one
    obtain ⟨heqYear, htexts⟩ := List.append_inj htexts (by rw [length_year h, length_year hother])
    obtain ⟨heqMonth, htexts⟩ := List.append_inj (List.cons.inj htexts).2 (htwo hmonth hmonth')
    obtain ⟨heqDay, htexts⟩ := List.append_inj (List.cons.inj htexts).2 (htwo hday hday')
    obtain ⟨heqHour, htexts⟩ := List.append_inj (List.cons.inj htexts).2
      (htwo (by omega) (by omega))
    obtain ⟨heqMinute, heqSecond⟩ := List.append_inj htexts (htwo (by omega) (by omega))
    rw [padded_inj] at heqYear heqMonth heqDay heqHour heqMinute heqSecond
    have hdate : date (dayOf moment) = date (dayOf other) := by
      have hyear := one_le_year h
      have hyear' := one_le_year hother
      cases hd : date (dayOf moment)
      cases he : date (dayOf other)
      rw [hd] at heqYear heqMonth heqDay hyear
      rw [he] at heqYear heqMonth heqDay hyear'
      dsimp only at heqYear heqMonth heqDay hyear hyear'
      rw [Date.mk.injEq]
      exact ⟨by omega, heqMonth, heqDay⟩
    have hsame : secondOf moment = secondOf other := by omega
    rw [← dayOf_secondOf moment, ← dayOf_secondOf other, date_inj.1 hdate, hsame]
  · intro heq
    unfold fileStamp dateTime
    rw [heq]

end JuliaSession.Clock
