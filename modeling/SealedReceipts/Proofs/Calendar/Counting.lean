import Mathlib.Tactic.IntervalCases
import SealedReceipts.Proofs.Calendar

/-!
# Counting days

`Date.next` turns the page of the calendar: to the next day of the month, to the next month, to the
next year. The date of a day is computed from its place in a cycle of 400 years, and this is the same
as turning the page once for each day since 1970-01-01 (`Date.ofDays_succ`).
-/

namespace SealedReceipts

namespace Date

def next (d : Date) : Date :=
  if d.day < monthLength d.year d.month then { d with day := d.day + 1 }
  else if d.month < 12 then { d with month := d.month + 1, day := 1 }
  else { year := d.year + 1, month := 1, day := 1 }

theorem next_of_lt {d : Date} (h : d.day < monthLength d.year d.month) :
    d.next = { d with day := d.day + 1 } := if_pos h

theorem next_of_last {d : Date} (h : ¬ d.day < monthLength d.year d.month) :
    d.next = if d.month < 12 then { d with month := d.month + 1, day := 1 }
      else { year := d.year + 1, month := 1, day := 1 } := if_neg h

/-! ### Years that begin in March -/

/-- The day that lies `dayOfYear` after the first of March of a year of a cycle. -/
def ofMarch (cycle : Int) (year dayOfYear : Nat) : Date :=
  let month := (5 * dayOfYear + 2) / 153
  { year := year + cycle * 400 + if month < 10 then 0 else 1
    month := if month < 10 then month + 3 else month - 9
    day := dayOfYear - (153 * month + 2) / 5 + 1 }

/-- The days of a year of a cycle, up to the February of the next. -/
def marchLength (year : Nat) : Nat := if isLeapYear (year + 1) then 366 else 365

theorem marchLength_bounds (year : Nat) : 365 ≤ marchLength year ∧ marchLength year ≤ 366 := by
  unfold marchLength
  split <;> decide

variable {year dayOfYear : Nat}

theorem yearStart_add_marchLength (h : year < 399) :
    yearStart (year + 1) = yearStart year + marchLength year := by
  simp only [yearStart, marchLength, isLeapYear, Bool.and_eq_true, Bool.or_eq_true, beq_iff_eq,
    bne_iff_ne]
  split <;> omega

/-- The days of the years of a cycle are those of the cycle. -/
theorem yearStart_add_lt (hyear : year < 400) (hday : dayOfYear < marchLength year) :
    yearStart year + dayOfYear < cycleDays := by
  have hlength := marchLength_bounds year
  simp only [yearStart, cycleDays]
  rcases Nat.lt_or_ge year 399 with hlt | hge
  · have hnext := yearStart_add_marchLength hlt
    simp only [yearStart] at hnext
    omega
  · omega

theorem yearOfDay_eq (hyear : year < 400) (hday : dayOfYear < marchLength year) :
    yearOfDay (yearStart year + dayOfYear) = year := by
  apply Nat.le_antisymm
  · rcases Nat.lt_or_ge year 399 with hlt | hge
    · have hnext := yearStart_add_marchLength hlt
      exact (yearOfDay_mono (by omega)).trans (yearOfDay_lt year hlt)
    · exact (yearOfDay_le (yearStart_add_lt hyear hday)).trans hge
  · exact (le_yearOfDay_yearStart year hyear).trans (yearOfDay_mono (Nat.le_add_right _ _))

/-- The date of a day by its year and its place in the year. -/
theorem ofDays_march (cycle : Int) (hyear : year < 400) (hday : dayOfYear < marchLength year) :
    ofDays (cycle * cycleDays + (yearStart year + dayOfYear : Nat) - epochDays) =
      ofMarch cycle year dayOfYear := by
  have hlt := yearStart_add_lt hyear hday
  have hof := yearOfDay_eq hyear hday
  have hsub : yearStart year + dayOfYear - yearStart year = dayOfYear :=
    Nat.add_sub_cancel_left ..
  generalize yearStart year + dayOfYear = day at *
  have hcycle : (cycle * cycleDays + (day : Int) - epochDays + epochDays) / cycleDays = cycle := by
    simp only [cycleDays] at *
    omega
  have hrest :
      ((cycle * cycleDays + (day : Int) - epochDays + epochDays) % cycleDays).toNat = day := by
    simp only [cycleDays] at *
    omega
  simp only [ofDays, ofMarch]
  rw [hcycle, hrest, ← hsub, ← hof]
  rfl

theorem exists_march (days : Int) : ∃ cycle year dayOfYear, year < 400 ∧
    dayOfYear < marchLength year ∧
    days = cycle * cycleDays + (yearStart year + dayOfYear : Nat) - epochDays := by
  obtain ⟨day, hday⟩ : ∃ day, day = ((days + epochDays) % cycleDays).toNat := ⟨_, rfl⟩
  have hlt : day < cycleDays := by
    simp only [cycleDays] at hday ⊢
    omega
  refine ⟨(days + epochDays) / cycleDays, yearOfDay day, day - yearStart (yearOfDay day),
    Nat.lt_succ_of_le (yearOfDay_le hlt), ?_, ?_⟩
  · rcases dayOfYear_le hlt with hshort | ⟨hlong, hleap⟩
    · exact hshort.trans_le (marchLength_bounds _).1
    · rw [marchLength, if_pos hleap, hlong]
      decide
  · rw [Nat.add_sub_cancel' (yearStart_le hlt)]
    simp only [cycleDays] at hday ⊢
    omega

/-! ### One day more -/

/-- The months from March to January have their lengths whatever the year. -/
theorem monthLength_march (year : Int) {month : Nat} (h : month ≤ 10) :
    (153 * month + 2) / 5 + monthLength year (if month < 10 then month + 3 else month - 9) =
      (153 * (month + 1) + 2) / 5 := by
  interval_cases month <;> rfl

/-- February takes what is left of the year. -/
theorem monthLength_february (cycle : Int) (year : Nat) :
    337 + monthLength (year + cycle * 400 + 1) 2 = marchLength year := by
  rw [monthLength, marchLength, Int.add_right_comm, isLeapYear_add_cycles]
  simp only [if_true]
  split <;> rfl

/-- A day later it is the next day of the same year, or the first of March. -/
theorem next_ofMarch (cycle : Int) (hyear : year < 400) (hday : dayOfYear < marchLength year) :
    (ofMarch cycle year dayOfYear).next =
      if dayOfYear + 1 < marchLength year then ofMarch cycle year (dayOfYear + 1)
      else if year < 399 then ofMarch cycle (year + 1) 0
      else ofMarch (cycle + 1) 0 0 := by
  have hlength := marchLength_bounds year
  obtain ⟨month, hmonth⟩ : ∃ month, month = (5 * dayOfYear + 2) / 153 := ⟨_, rfl⟩
  rcases Nat.lt_or_ge month 11 with hbefore | hfebruary
  · have hdays := monthLength_march (year + cycle * 400 + if month < 10 then 0 else 1)
      (Nat.le_of_lt_succ hbefore)
    rw [if_pos (by omega)]
    by_cases hsame : (5 * (dayOfYear + 1) + 2) / 153 = month
    · rw [next_of_lt] <;> simp only [ofMarch, ← hmonth, hsame, Date.mk.injEq, true_and] <;> omega
    · have hnext : (5 * (dayOfYear + 1) + 2) / 153 = month + 1 := by omega
      rw [next_of_last]
      · simp only [ofMarch, ← hmonth, hnext]
        -- the month after December is in the next year
        rcases (by omega : month < 9 ∨ month = 9 ∨ month = 10) with hlt | rfl | rfl
        · simp [hlt, show month < 10 by omega, show month + 3 < 12 by omega]
          omega
        · simp
          omega
        · simp
          omega
      · simp only [ofMarch, ← hmonth]
        omega
  · obtain rfl : month = 11 := by omega
    have hdays := monthLength_february cycle year
    have hdate : ofMarch cycle year dayOfYear =
        { year := year + cycle * 400 + 1, month := 2, day := dayOfYear - 337 + 1 } := by
      simp only [ofMarch, ← hmonth]
      rfl
    rw [hdate]
    by_cases hwithin : dayOfYear + 1 < marchLength year
    · have hnext : (5 * (dayOfYear + 1) + 2) / 153 = 11 := by omega
      rw [if_pos hwithin, next_of_lt (by dsimp only; omega)]
      simp [ofMarch, hnext]
      omega
    · rw [if_neg hwithin, next_of_last (by dsimp only; omega)]
      by_cases hlast : year < 399
      · simp [ofMarch, hlast]
        omega
      · simp [ofMarch, hlast]
        omega

/-- **The days in their order.** A day later the calendar shows the next page. -/
theorem ofDays_succ (days : Int) : ofDays (days + 1) = (ofDays days).next := by
  obtain ⟨cycle, year, dayOfYear, hyear, hday, rfl⟩ := exists_march days
  rw [ofDays_march cycle hyear hday, next_ofMarch cycle hyear hday]
  have hlength := marchLength_bounds year
  split
  · next hwithin =>
    rw [← ofDays_march cycle hyear hwithin]
    congr 1
    omega
  · split
    · next hlt =>
      have hnext := yearStart_add_marchLength hlt
      have hfirst : 0 < marchLength (year + 1) :=
        Nat.zero_lt_of_lt (marchLength_bounds (year + 1)).1
      rw [← ofDays_march cycle (by omega : year + 1 < 400) hfirst]
      congr 1
      omega
    · obtain rfl : year = 399 := by omega
      have hlast : marchLength 399 = 366 := rfl
      rw [← ofDays_march (cycle + 1) (by decide : 0 < 400) (by decide : 0 < marchLength 0)]
      congr 1
      simp only [yearStart, cycleDays]
      omega

end Date

namespace Timestamp

/-- The date of a moment one day later is the day after. -/
theorem date_add_day (t : Timestamp) :
    date { t with seconds := t.seconds + daySeconds } = t.date.next := by
  have hdays : (t.seconds + daySeconds) / daySeconds = t.seconds / daySeconds + 1 := by
    simp only [daySeconds]
    omega
  rw [date, hdays, Date.ofDays_succ, date]

theorem date_of_first_day {t : Timestamp} (hlow : 0 ≤ t.seconds) (hhigh : t.seconds < daySeconds) :
    t.date = { year := 1970, month := 1, day := 1 } := by
  have hdays : t.seconds / daySeconds = 0 := Int.ediv_eq_zero_of_lt hlow hhigh
  rw [date, hdays]
  rfl

/-- The years before 1970 are those of the moments before its beginning. -/
theorem seconds_nonneg {t : Timestamp} (h : 1970 ≤ t.date.year) : 0 ≤ t.seconds := by
  by_contra hneg
  obtain ⟨cycle, year, dayOfYear, hyear, hday, hdays⟩ := Date.exists_march (t.seconds / daySeconds)
  have hlength := Date.marchLength_bounds year
  rw [date, hdays, Date.ofDays_march cycle hyear hday] at h
  simp only [Date.ofMarch] at h
  simp only [Date.yearStart, Date.cycleDays, Date.epochDays, daySeconds] at hdays
  split at h <;> omega

end Timestamp

end SealedReceipts
