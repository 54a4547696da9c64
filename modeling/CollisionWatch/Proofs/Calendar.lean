import CollisionWatch.Calendar
import Mathlib

/-!
# The calendar counts every day once

The day of a number has that number (`toDays_ofDays`).
-/

namespace CollisionWatch.Date

/-- The place of a day in a cycle of four hundred years: the year, and the day of that year. -/
theorem year_of_cycle {day : Int} (h0 : 0 ≤ day) (h1 : day < daysPerCycle) :
    let year := (day - day / 1460 + day / 36524 - day / 146096) / 365
    0 ≤ year ∧ year < 400 ∧ 0 ≤ day - (365 * year + year / 4 - year / 100) ∧
      day - (365 * year + year / 4 - year / 100) < 366 := by
  simp only [daysPerCycle] at h1
  intro year
  have hyear : year = (day - day / 1460 + day / 36524 - day / 146096) / 365 := rfl
  have hpos : 0 ≤ year := by omega
  have hlt : year < 400 := by omega
  -- the centuries and the leap years that the day has behind it are those of its year, or nearly so
  have hcentury : year / 100 = day / 36524 - day / 146096 := by
    have hf : day / 36524 = 0 ∨ day / 36524 = 1 ∨ day / 36524 = 2 ∨ day / 36524 = 3 ∨
        day / 36524 = 4 := by omega
    rcases hf with hf | hf | hf | hf | hf <;> omega
  have hleap : year / 4 ≤ day / 1460 := by omega
  have hleap' : day / 1460 ≤ year / 4 + 1 := by omega
  omega

/-- **The day of a number has that number.** -/
theorem toDays_ofDays (days : Int) : (ofDays days).toDays = days := by
  unfold ofDays
  extract_lets shifted cycle dayOfCycle yearOfCycle dayOfYear monthFromMarch day month year
  have hcycle : days = cycle * 146097 + dayOfCycle - 719468 := by
    simp only [dayOfCycle, shifted, daysPerCycle, daysBeforeEpoch]
    omega
  have h0 : 0 ≤ dayOfCycle := by simp only [dayOfCycle, cycle, daysPerCycle]; omega
  have h1 : dayOfCycle < daysPerCycle := by simp only [dayOfCycle, cycle, daysPerCycle]; omega
  obtain ⟨hyear0, hyear1, hday0, hday1⟩ := year_of_cycle h0 h1
  change 0 ≤ yearOfCycle at hyear0
  change yearOfCycle < 400 at hyear1
  change 0 ≤ dayOfYear at hday0
  change dayOfYear < 366 at hday1
  have hsplit : dayOfCycle = 365 * yearOfCycle + yearOfCycle / 4 - yearOfCycle / 100 + dayOfYear := by
    simp only [dayOfYear]
    omega
  have hmarch : monthFromMarch = (5 * dayOfYear + 2) / 153 := rfl
  have hday : day = dayOfYear - (153 * monthFromMarch + 2) / 5 + 1 := rfl
  have hyear : year = yearOfCycle + cycle * 400 := rfl
  clear_value dayOfCycle yearOfCycle dayOfYear monthFromMarch day year cycle
  -- the year ends with February, so only the last two months belong to the next one
  by_cases hmonth : monthFromMarch < 10
  · have hcalendar : month = monthFromMarch + 3 := if_pos hmonth
    rw [toDays]
    simp only [hcalendar]
    have hnot : ¬ monthFromMarch + 3 ≤ 2 := by omega
    have hnot' : ¬ (monthFromMarch + 3).toNat ≤ 2 := by omega
    simp only [hnot, hnot', if_false, daysPerCycle, daysBeforeEpoch]
    omega
  · have hcalendar : month = monthFromMarch - 9 := if_neg hmonth
    rw [toDays]
    simp only [hcalendar]
    have hle : monthFromMarch - 9 ≤ 2 := by omega
    have hle' : (monthFromMarch - 9).toNat ≤ 2 := by omega
    simp only [hle, hle', if_true, daysPerCycle, daysBeforeEpoch]
    omega

end CollisionWatch.Date
