import SensorGateway.Proofs.Calendar.Days
import SensorGateway.Proofs.Text.Numbers

/-!
What time stamps look like, and that no two look the same.

A year is the spelling of an integer, with a sign where it has not just four digits, so it may have
any length; month, day and the parts of the clock have two digits each and stand behind it, so that
they are found from the end. A stamp without a date is the spelling of an integer, too. It is one
word while date and time are two, so the two kinds are told apart without looking at the range.
-/

set_option autoImplicit false

namespace SensorGateway.Calendar

open Text

/-! ## The parts of a text -/

/-- **Two digits at the end are cut off** in one way only. -/
theorem append_zeroPadded_inj {front front' : List Char} {n n' : Nat} (hn : n < 100)
    (hn' : n' < 100)
    (h : front ++ (zeroPadded 2 n).toList = front' ++ (zeroPadded 2 n').toList) :
    front = front' ∧ n = n' := by
  have hlength : ∀ {k : Nat}, k < 100 → (zeroPadded 2 k).toList.length = 2 :=
    fun hk => length_zeroPadded (by decide) hk
  obtain ⟨hfront, hdigits⟩ := List.append_inj' h ((hlength hn).trans (hlength hn').symm)
  exact ⟨hfront, zeroPadded_inj hdigits⟩

/-- A year is a number, with a sign outside of the years that have four digits. -/
theorem isInteger_yearText (y : Int) : IsInteger (yearText y).toList y := by
  rw [yearText]
  -- years of four digits have no sign; of the others the negative ones have a minus, the rest a
  -- plus
  split
  · rename_i hrange
    have hnonneg : 0 ≤ y := (by simpa using hrange : 0 ≤ y ∧ y ≤ 9999).1
    exact .inl ⟨y.toNat, ⟨_, .inl rfl, isDecimal_zeroPadded 4 y.toNat⟩,
      (Int.toNat_of_nonneg hnonneg).symm⟩
  · rw [String.toList_append]
    split
    · exact .inr ⟨_, y.natAbs, rfl, isDecimal_zeroPadded 4 y.natAbs, by omega⟩
    · exact .inl ⟨y.natAbs, ⟨_, .inr rfl, isDecimal_zeroPadded 4 y.natAbs⟩, by omega⟩

/-- The letters of a date, from behind: the day, the month and whatever the year is. -/
theorem toList_dateText (d : Date) : (dateText d).toList
    = (((yearText d.year).toList ++ ['-']) ++ (zeroPadded 2 d.month).toList ++ ['-'])
      ++ (zeroPadded 2 d.day).toList := by
  have hdash : "-".toList = ['-'] := rfl
  simp only [dateText, String.toList_append, hdash]

theorem toList_clockText (s : Nat) : (clockText s).toList
    = (((zeroPadded 2 (s / 3600)).toList ++ [':']) ++ (zeroPadded 2 (s / 60 % 60)).toList ++ [':'])
      ++ (zeroPadded 2 (s % 60)).toList := by
  have hcolon : ":".toList = [':'] := rfl
  simp only [clockText, String.toList_append, hcolon]

/-! ## Dates and times of day -/

/-- Dates with the same text are the same, if their months and days have two digits at most. -/
theorem dateText_inj {d d' : Date} (hmonth : d.month < 100) (hday : d.day < 100)
    (hmonth' : d'.month < 100) (hday' : d'.day < 100) (h : dateText d = dateText d') : d = d' := by
  rcases d with ⟨year, month, day⟩
  rcases d' with ⟨year', month', day'⟩
  have hlist := congrArg String.toList h
  rw [toList_dateText, toList_dateText] at hlist
  obtain ⟨hfront, rfl⟩ := append_zeroPadded_inj hday hday' hlist
  obtain ⟨hfront, rfl⟩ := append_zeroPadded_inj hmonth hmonth' (List.append_cancel_right hfront)
  have hyear := isInteger_yearText year
  rw [List.append_cancel_right hfront] at hyear
  rw [hyear.unique (isInteger_yearText year')]

/-- **Days with the same date are the same.** -/
theorem dateText_ofDays_inj {days days' : Int}
    (h : dateText (ofDays days) = dateText (ofDays days')) : days = days' := by
  obtain ⟨hmonth, hday⟩ := ofDays_lt days
  obtain ⟨hmonth', hday'⟩ := ofDays_lt days'
  rw [← toDays_ofDays days, dateText_inj hmonth hday hmonth' hday' h, toDays_ofDays]

/-- **Seconds of a day with the same text are the same.** -/
theorem clockText_inj {s s' : Nat} (hs : s < 86400) (hs' : s' < 86400)
    (h : clockText s = clockText s') : s = s' := by
  have hlist := congrArg String.toList h
  rw [toList_clockText, toList_clockText] at hlist
  obtain ⟨hfront, hsecond⟩ := append_zeroPadded_inj (by omega) (by omega) hlist
  obtain ⟨hfront, hminute⟩ := append_zeroPadded_inj (by omega) (by omega)
    (List.append_cancel_right hfront)
  -- what is left in front are the hours
  have hhour : s / 3600 = s' / 3600 := zeroPadded_inj (List.append_cancel_right hfront)
  omega

theorem solid_dateText (d : Date) : Solid (dateText d).toList := by
  have hdash : Solid ['-'] := by decide
  rw [toList_dateText]
  exact ((((isInteger_yearText d.year).solid.append hdash).append
    (isDecimal_zeroPadded 2 d.month).solid).append hdash).append
      (isDecimal_zeroPadded 2 d.day).solid

theorem solid_clockText (s : Nat) : Solid (clockText s).toList := by
  have hcolon : Solid [':'] := by decide
  rw [toList_clockText]
  exact ((((isDecimal_zeroPadded 2 (s / 3600)).solid.append hcolon).append
    (isDecimal_zeroPadded 2 (s / 60 % 60)).solid).append hcolon).append
      (isDecimal_zeroPadded 2 (s % 60)).solid

/-! ## Stamps -/

/-- The second of the day that a stamp falls on. -/
theorem fmod_daySeconds (seconds : Int) :
    (seconds.fmod daySeconds).toNat < 86400
      ∧ seconds = seconds.fdiv daySeconds * 86400 + (seconds.fmod daySeconds).toNat := by
  have hpos : (0 : Int) < daySeconds := by decide
  have hcut := Int.fmod_add_fdiv_mul seconds daySeconds
  have hnonneg := Int.fmod_nonneg_of_pos seconds hpos
  have hlt := Int.fmod_lt_of_pos seconds hpos
  rw [daySeconds] at *
  omega

/-- **The words of a stamp:** date and time of day where it has a date, and one number otherwise. -/
theorem words_stampText (seconds : Int) : words (stampText seconds)
    = if firstSecond ≤ seconds ∧ seconds ≤ lastSecond then
        [dateText (ofDays (seconds.fdiv daySeconds)),
          clockText (seconds.fmod daySeconds).toNat]
      else [toString seconds] := by
  have hnumber : Solid (toString seconds).toList := (isInteger_toString seconds).solid
  simp only [stampText, Bool.and_eq_true, decide_eq_true_eq]
  split
  · have hblank : " " = String.singleton ' ' := rfl
    rw [timeText, hblank, words_append_blank (by decide), words_of_solid (solid_dateText _),
      words_of_solid (solid_clockText _), List.singleton_append]
  · exact words_of_solid hnumber

theorem newline_not_mem_stampText (seconds : Int) : '\n' ∉ (stampText seconds).toList := by
  have hnewline : isBlank '\n' = true := by decide
  have hblank : '\n' ∉ " ".toList := by decide
  rw [stampText]
  split
  · simp only [timeText, String.toList_append, List.mem_append, not_or]
    exact ⟨⟨(solid_dateText _).not_mem hnewline, hblank⟩, (solid_clockText _).not_mem hnewline⟩
  · exact (isInteger_toString seconds).solid.not_mem hnewline

/-- **Stamps with the same words are the same.** -/
theorem words_stampText_inj {seconds seconds' : Int}
    (h : words (stampText seconds) = words (stampText seconds')) : seconds = seconds' := by
  rw [words_stampText, words_stampText] at h
  -- two words against one, where only one of the two has a date
  split at h
  · split at h
    · obtain ⟨hdate, hclock⟩ := List.cons.inj h
      obtain ⟨hlt, hseconds⟩ := fmod_daySeconds seconds
      obtain ⟨hlt', hseconds'⟩ := fmod_daySeconds seconds'
      rw [hseconds, hseconds', dateText_ofDays_inj hdate,
        clockText_inj hlt hlt' (List.cons.inj hclock).1]
    · cases (List.cons.inj h).2
  · split at h
    · cases (List.cons.inj h).2
    · have hnumber := isInteger_toString seconds
      rw [(List.cons.inj h).1] at hnumber
      exact hnumber.unique (isInteger_toString seconds')

/-- The last stamp with a date has a sign in front of its year. -/
example : (words (stampText lastSecond)) = ["+262142-12-31", "23:59:59"] := by decide

end SensorGateway.Calendar
