import Mathlib.Order.Monotone.Basic
import SealedReceipts.Proofs.Digits
import SealedReceipts.Calendar

/-!
# Calendar facts

The years of four digits lie well within the seconds that the calendar supports: a moment whose
date is written without a sign is never out of range.

Every day is a day of the calendar (`Date.ofDays_isValid`). The year within a cycle is computed by
taking the leap days out of the day and dividing by 365; that this is the year in which the day lies
follows from its values on the first and the last day of each year, since the quotient never
decreases.

A date with a year of four digits is written in eight digits, and they are read back as that date
(`Date.ofDigits_compact`). `Date.Writes` says apart from writer and reader which texts write a day:
the eight digits of a text are read as the day that they write, and that day is written so
(`Date.writes_ofDigits`, `Date.Writes.compact_eq`).
-/

namespace SealedReceipts

open Digits (padded)

namespace Date

/-- A date lies in the cycle of its day or behind it. -/
theorem cycle_le_year (days : Int) :
    (days + epochDays) / cycleDays * 400 ≤ (ofDays days).year := by
  simp only [ofDays]
  split <;> omega

/-! ### Years of a cycle -/

/-- The first day of a year of the cycle. -/
def yearStart (year : Nat) : Nat :=
  365 * year + year / 4 - year / 100

/-- The year of a day of the cycle. -/
def yearOfDay (day : Nat) : Nat :=
  (day - day / 1460 + day / 36524 - day / 146096) / 365

theorem yearOfDay_mono {a b : Nat} (h : a ≤ b) : yearOfDay a ≤ yearOfDay b := by
  have hstep : ∀ day : Nat, day - day / 1460 + day / 36524 - day / 146096 ≤
      (day + 1) - (day + 1) / 1460 + (day + 1) / 36524 - (day + 1) / 146096 := by
    intro day
    omega
  exact Nat.div_le_div_right (monotone_nat_of_le_succ hstep h)

/-- On the first day of a year its leap days so far are taken out. -/
theorem le_yearOfDay_yearStart (year : Nat) (h : year < 400) :
    year ≤ yearOfDay (yearStart year) := by
  have hstart : yearStart year = 365 * year + year / 4 - year / 100 := rfl
  have hleap : yearStart year / 1460 ≤ year / 4 := by omega
  have hcentury : year / 100 ≤ yearStart year / 36524 := by omega
  have hcycle : yearStart year / 146096 = 0 := by omega
  unfold yearOfDay
  omega

/-- On the last day of a year all of its leap days are taken out. -/
theorem yearOfDay_lt (year : Nat) (h : year < 399) :
    yearOfDay (yearStart (year + 1) - 1) ≤ year := by
  have hstart : yearStart (year + 1) = 365 * (year + 1) + (year + 1) / 4 - (year + 1) / 100 := rfl
  have hleap : (year + 1) / 4 ≤ (yearStart (year + 1) - 1) / 1460 := by omega
  have hcentury : (yearStart (year + 1) - 1) / 36524 ≤ (year + 1) / 100 := by omega
  unfold yearOfDay
  omega

variable {day : Nat}

theorem yearOfDay_le (h : day < cycleDays) : yearOfDay day ≤ 399 :=
  yearOfDay_mono (Nat.le_sub_one_of_lt h)

/-- A year has begun on each of its days. -/
theorem yearStart_le (h : day < cycleDays) : yearStart (yearOfDay day) ≤ day := by
  by_contra hlt
  have hyear := yearOfDay_le h
  cases hk : yearOfDay day with
  | zero => simp [hk, yearStart] at hlt
  | succ k =>
    rw [hk] at hlt hyear
    have hle := yearOfDay_mono (show day ≤ yearStart (k + 1) - 1 by omega)
    have := yearOfDay_lt k (by omega)
    omega

/-- A year ends before the next begins; the last day of the cycle stands after all of them. -/
theorem lt_yearStart_succ (h : day < cycleDays) :
    day < yearStart (yearOfDay day + 1) ∨ day = yearStart 400 ∧ yearOfDay day = 399 := by
  by_cases hlt : day < yearStart (yearOfDay day + 1)
  · exact .inl hlt
  · have hyear : yearOfDay day = 399 := by
      by_contra hne
      have hle := yearOfDay_le h
      have hmono := yearOfDay_mono (Nat.not_lt.1 hlt)
      have hstart := le_yearOfDay_yearStart (yearOfDay day + 1) (by omega)
      omega
    rw [hyear] at hlt
    exact .inr ⟨Nat.le_antisymm (Nat.le_of_lt_succ h) (Nat.not_lt.1 hlt), hyear⟩

/-- A year that begins in March is longer by a day before the March of a leap year. -/
theorem yearStart_succ (year : Nat) (h : year < 400) :
    yearStart (year + 1) = yearStart year + 365 ∨
      yearStart (year + 1) = yearStart year + 366 ∧ isLeapYear (year + 1) = true := by
  simp only [yearStart, isLeapYear, Bool.and_eq_true, Bool.or_eq_true, beq_iff_eq, bne_iff_ne]
  omega

theorem isLeapYear_add_cycles (year cycle : Int) :
    isLeapYear (year + cycle * 400) = isLeapYear year := by
  have h4 : (year + cycle * 400) % 4 = year % 4 := by omega
  have h100 : (year + cycle * 400) % 100 = year % 100 := by omega
  have h400 : (year + cycle * 400) % 400 = year % 400 := by omega
  rw [isLeapYear, isLeapYear, h4, h100, h400]

/-- A year has 365 days; the one before March of a leap year has one more. -/
theorem dayOfYear_le (h : day < cycleDays) :
    day - yearStart (yearOfDay day) < 365 ∨ day - yearStart (yearOfDay day) = 365 ∧
      isLeapYear (yearOfDay day + 1) = true := by
  have hstart := yearStart_le h
  rcases Nat.lt_or_ge (day - yearStart (yearOfDay day)) 365 with hshort | hlong
  · exact .inl hshort
  rcases lt_yearStart_succ h with hlt | ⟨hlast, hyear⟩
  · rcases yearStart_succ _ (Nat.lt_succ_of_le (yearOfDay_le h)) with hend | ⟨hend, hleap⟩
    · omega
    · exact .inr ⟨by omega, hleap⟩
  · rw [hyear, hlast]
    exact .inr (by decide)

/-! ### Days of the calendar -/

theorem ofDays_isValid (days : Int) : (ofDays days).IsValid := by
  obtain ⟨cycle, hcycle⟩ : ∃ cycle, cycle = (days + epochDays) / cycleDays := ⟨_, rfl⟩
  obtain ⟨day, hday⟩ : ∃ day, day = ((days + epochDays) % cycleDays).toNat := ⟨_, rfl⟩
  have hlt : day < cycleDays := by
    simp only [cycleDays] at hday ⊢
    omega
  have hyear := dayOfYear_le hlt
  generalize hyearOfDay : yearOfDay day = year at hyear
  generalize hdayOfYear : day - yearStart year = dayOfYear at hyear
  have hof : ofDays days = (
      let month := (5 * dayOfYear + 2) / 153
      { year := year + cycle * 400 + if month < 10 then 0 else 1
        month := if month < 10 then month + 3 else month - 9
        day := dayOfYear - (153 * month + 2) / 5 + 1 }) := by
    subst hdayOfYear hyearOfDay hday hcycle
    rfl
  rw [hof]
  dsimp only
  have hmonth : (5 * dayOfYear + 2) / 153 ≤ 11 := by omega
  by_cases hspring : (5 * dayOfYear + 2) / 153 < 10
  · simp only [hspring, if_true, IsValid, monthLength]
    split <;> (try split) <;> omega
  · simp only [hspring, if_false, IsValid, monthLength]
    have hleap : isLeapYear (year + cycle * 400 + 1) = isLeapYear (year + 1) := by
      rw [Int.add_right_comm, isLeapYear_add_cycles]
    rw [hleap]
    split <;> split <;> grind

/-! ### Written dates -/

/-- The written form of a year above 9999 begins with a sign. -/
theorem plus_mem_compact {d : Date} (h : 9999 < d.year) : '+' ∈ d.compact.toList := by
  have hyear : ¬(0 ≤ d.year ∧ d.year ≤ 9999) := by omega
  have hsign : ¬d.year < 0 := by omega
  simp [compact, yearText, hyear, hsign]

/-- A date is read off its year, its month and its day. -/
theorem ofDigits_append {year month : List Char} (hyear : year.length = 4)
    (hmonth : month.length = 2) (day : List Char) :
    ofDigits (Digits.valuesOf (year ++ (month ++ day))) =
      { year := Digits.decimal (Digits.valuesOf year)
        month := Digits.decimal (Digits.valuesOf month)
        day := Digits.decimal (Digits.valuesOf day) } := by
  rw [← Digits.length_valuesOf] at hyear hmonth
  rw [Digits.valuesOf_append, Digits.valuesOf_append, ofDigits, List.take_left' hyear,
    List.drop_left' hyear, List.take_left' hmonth, ← List.append_assoc,
    List.drop_left' (by rw [List.length_append, hyear, hmonth])]

section FourDigits

variable {d : Date} (hyear : 0 ≤ d.year ∧ d.year ≤ 9999)

include hyear

theorem compact_of_four_digits : d.compact.toList =
    (padded 4 d.year.toNat).toList ++ ((padded 2 d.month).toList ++ (padded 2 d.day).toList) := by
  rw [compact, yearText, if_pos hyear, String.toList_append, String.toList_append,
    List.append_assoc]

theorem isDigit_of_mem_compact {c : Char} (h : c ∈ d.compact.toList) : c.isDigit := by
  rw [compact_of_four_digits hyear, List.mem_append, List.mem_append] at h
  rcases h with h | h | h <;> exact Digits.isDigit_of_mem_padded h

theorem length_year : (padded 4 d.year.toNat).toList.length = 4 :=
  Digits.length_padded (by decide) (by omega)

omit hyear

variable (hvalid : d.IsValid)

include hvalid

theorem length_month : (padded 2 d.month).toList.length = 2 :=
  Digits.length_padded (by decide) (hvalid.2.1.trans_lt (by decide))

theorem length_day : (padded 2 d.day).toList.length = 2 := by
  have hday : d.day ≤ 31 := by
    refine hvalid.2.2.2.trans ?_
    unfold monthLength
    split <;> (try split) <;> decide
  exact Digits.length_padded (by decide) (hday.trans_lt (by decide))

include hyear

theorem length_compact : d.compact.toList.length = 8 := by
  rw [compact_of_four_digits hyear, List.length_append, List.length_append, length_year hyear,
    length_month hvalid, length_day hvalid]

theorem ofDigits_compact : ofDigits (Digits.valuesOf d.compact.toList) = d := by
  rw [compact_of_four_digits hyear, ofDigits_append (length_year hyear) (length_month hvalid),
    Digits.decimal_padded, Digits.decimal_padded, Digits.decimal_padded,
    Int.toNat_of_nonneg hyear.1]

end FourDigits

/-! ### What writes a date -/

/-- The text is eight digits that write a day of the calendar: four of them its year, two its month
and two its day. -/
structure Writes (text : List Char) (d : Date) : Prop where
  parts : ∃ year month day : List Char, text = year ++ (month ++ day) ∧
    (year.length = 4 ∧ Digits.Writes year d.year.toNat) ∧
    (month.length = 2 ∧ Digits.Writes month d.month) ∧
    (day.length = 2 ∧ Digits.Writes day d.day)
  year_nonneg : 0 ≤ d.year
  isValid : d.IsValid

namespace Writes

variable {text : List Char} {d : Date}

theorem length_eq (h : Writes text d) : text.length = 8 := by
  obtain ⟨year, month, day, rfl, ⟨hyear, -⟩, ⟨hmonth, -⟩, hday, -⟩ := h.parts
  rw [List.length_append, List.length_append, hyear, hmonth, hday]

theorem isDigit (h : Writes text d) : ∀ c ∈ text, c.isDigit := by
  obtain ⟨year, month, day, rfl, ⟨-, hyear⟩, ⟨-, hmonth⟩, -, hday⟩ := h.parts
  intro c hc
  rw [List.mem_append, List.mem_append] at hc
  rcases hc with hc | hc | hc
  · exact hyear.isDigit c hc
  · exact hmonth.isDigit c hc
  · exact hday.isDigit c hc

theorem year_le (h : Writes text d) : d.year ≤ 9999 := by
  obtain ⟨year, month, day, -, ⟨hlength, hyear⟩, -⟩ := h.parts
  have hlt := Digits.ofDigitChars_lt hyear.isDigit 0
  rw [hyear.value, hlength] at hlt
  have hnonneg := h.year_nonneg
  omega

/-- A day is written in one way. -/
theorem compact_eq (h : Writes text d) : d.compact.toList = text := by
  obtain ⟨year, month, day, rfl, ⟨hfour, hyear⟩, ⟨htwo, hmonth⟩, hlast, hday⟩ := h.parts
  have hyear := hyear.eq_padded
  have hmonth := hmonth.eq_padded
  have hday := hday.eq_padded
  rw [hfour] at hyear
  rw [htwo] at hmonth
  rw [hlast] at hday
  rw [compact_of_four_digits ⟨h.year_nonneg, h.year_le⟩, hyear, hmonth, hday]

/-- The digits are read as the day that they write. -/
theorem ofDigits_eq (h : Writes text d) : ofDigits (Digits.valuesOf text) = d := by
  rw [← h.compact_eq, ofDigits_compact ⟨h.year_nonneg, h.year_le⟩ h.isValid]

end Writes

/-- Eight digits write the day that is read off them, if it is one. -/
theorem writes_ofDigits {text : List Char} (hlength : text.length = 8)
    (hdigits : ∀ c ∈ text, c.isDigit) (hvalid : (ofDigits (Digits.valuesOf text)).IsValid) :
    Writes text (ofDigits (Digits.valuesOf text)) := by
  obtain ⟨year, month, day, rfl, hfour, htwo, hlast⟩ : ∃ year month day : List Char,
      text = year ++ (month ++ day) ∧ year.length = 4 ∧ month.length = 2 ∧ day.length = 2 := by
    refine ⟨text.take 4, (text.drop 4).take 2, (text.drop 4).drop 2, ?_, ?_, ?_, ?_⟩
    · rw [List.take_append_drop, List.take_append_drop]
    all_goals simp [hlength]
  have hwrites : ∀ part : List Char, part ⊆ year ++ (month ++ day) → part ≠ [] →
      Digits.Writes part (Digits.decimal (Digits.valuesOf part)) := by
    intro part hpart hne
    exact ⟨hne, fun c hc => hdigits c (hpart hc), (Digits.decimal_valuesOf part).symm⟩
  rw [ofDigits_append hfour htwo] at hvalid ⊢
  refine ⟨⟨year, month, day, rfl, ⟨hfour, ?_⟩, ⟨htwo, ?_⟩, hlast, ?_⟩, Int.natCast_nonneg _, hvalid⟩
  · rw [Int.toNat_natCast]
    exact hwrites year (by simp) (by rintro rfl; cases hfour)
  · exact hwrites month (by simp) (by rintro rfl; cases htwo)
  · exact hwrites day (by simp) (by rintro rfl; cases hlast)

end Date

namespace Timestamp

theorem seconds_le_of_year_le {t : Timestamp} (h : t.date.year ≤ 9999) :
    t.seconds ≤ maxSeconds := by
  have hcycle := Date.cycle_le_year (t.seconds / daySeconds)
  have hyear : (Date.ofDays (t.seconds / daySeconds)).year ≤ 9999 := h
  simp only [Date.epochDays, Date.cycleDays, daySeconds, maxSeconds] at hcycle hyear ⊢
  omega

/-- From 1970 on the year is not negative. -/
theorem year_nonneg {t : Timestamp} (h : 0 ≤ t.seconds) : 0 ≤ t.date.year := by
  have hcycle := Date.cycle_le_year (t.seconds / daySeconds)
  have hyear : t.date.year = (Date.ofDays (t.seconds / daySeconds)).year := rfl
  simp only [Date.epochDays, Date.cycleDays, daySeconds] at hcycle hyear
  omega

end Timestamp

end SealedReceipts
