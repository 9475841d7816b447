import TrainingJobs.Time.Calendar

/-!
# Dates and their numbers

A cycle of 400 years is cut into centuries, groups of four years and years (`CycleDay`). All years
have 365 days but the last of a group, which has one more, unless it ends a century that does not
end the cycle. Read off these parts, the date of every day exists (`exists_ofDays`) and has the
number of the day (`toDays_ofDays`).
-/

namespace TrainingJobs

/-- A day of a cycle of 400 years that begin in March: the number of its century, of its group in
the century, of its year in the group and its own in the year. -/
structure CycleDay where
  century : Int
  group : Int
  year : Int
  day : Int
  century_bounds : 0 ≤ century ∧ century ≤ 3
  group_bounds : 0 ≤ group ∧ group ≤ 24
  year_bounds : 0 ≤ year ∧ year ≤ 3
  day_bounds : 0 ≤ day ∧ day ≤ 365
  /-- The 366th day is a leap day. -/
  leap : day = 365 → year = 3 ∧ (group = 24 → century = 3)

namespace CycleDay

def number (d : CycleDay) : Int := 36524 * d.century + 1461 * d.group + 365 * d.year + d.day

/-- Years from the beginning of the cycle. -/
def yearOfCycle (d : CycleDay) : Int := 100 * d.century + 4 * d.group + d.year

theorem exists_number_eq {n : Int} (h : 0 ≤ n ∧ n < 146097) : ∃ d : CycleDay, d.number = n := by
  let century := min (n / 36524) 3
  let inCentury := n - 36524 * century
  let group := inCentury / 1461
  let inGroup := inCentury - 1461 * group
  let year := min (inGroup / 365) 3
  have hcentury : 0 ≤ inCentury ∧ inCentury ≤ 36524 ∧ (inCentury = 36524 → century = 3) := by omega
  have hgroup : 0 ≤ inGroup ∧ inGroup ≤ 1460 := by omega
  refine ⟨⟨century, group, year, inGroup - 365 * year, by omega, by omega, by omega, by omega,
    by omega⟩, ?_⟩
  show 36524 * century + 1461 * group + 365 * year + (inGroup - 365 * year) = n
  omega

variable (d : CycleDay)

theorem yearOfCycle_bounds : 0 ≤ d.yearOfCycle ∧ d.yearOfCycle ≤ 399 := by
  obtain ⟨century, group, year, day, hcentury, hgroup, hyear, hday, hleap⟩ := d
  show 0 ≤ 100 * century + 4 * group + year ∧ 100 * century + 4 * group + year ≤ 399
  omega

/-- The leap days before a day of the cycle are as many as the groups and centuries tell. -/
theorem yearOfCycle_eq :
    (d.number - d.number / 1460 + d.number / 36524 - d.number / 146096) / 365 =
      d.yearOfCycle := by
  obtain ⟨century, group, year, day, hcentury, hgroup, hyear, hday, hleap⟩ := d
  show _ = 100 * century + 4 * group + year
  generalize hn : CycleDay.number _ = n
  replace hn : 36524 * century + 1461 * group + 365 * year + day = n := hn
  -- the last day of the cycle is the only one whose century has a day too many
  have hlast : n = 146096 ∧ century = 3 ∧ group = 24 ∧ year = 3 ∨
      n < 146096 ∧ n < 36524 * century + 36524 := by omega
  rcases hlast with ⟨rfl, rfl, rfl, rfl⟩ | ⟨hcycle, hlast⟩
  · rfl
  have hcenturies : n / 36524 = century ∧ n / 146096 = 0 := by omega
  have hgroups : n / 1460 = 25 * century + group ∨
      n / 1460 = 25 * century + group + 1 ∧ 1364 ≤ 365 * year + day := by omega
  rw [hcenturies.1, hcenturies.2]
  omega

theorem number_eq :
    d.number = 365 * d.yearOfCycle + d.yearOfCycle / 4 - d.yearOfCycle / 100 + d.day := by
  obtain ⟨century, group, year, day, hcentury, hgroup, hyear, hday, hleap⟩ := d
  unfold number yearOfCycle
  have hfour : (100 * century + 4 * group + year) / 4 = 25 * century + group := by omega
  have hhundred : (100 * century + 4 * group + year) / 100 = century := by omega
  dsimp only
  omega

/-- The month, counted from March. -/
def marchMonth : Int := (5 * d.day + 2) / 153

def dayOfMonth : Int := d.day - (153 * d.marchMonth + 2) / 5 + 1

/-- The date of a day of a cycle. -/
def date (cycle : Int) : Date :=
  let month := if d.marchMonth < 10 then d.marchMonth + 3 else d.marchMonth - 9
  let marchYear := d.yearOfCycle + cycle * 400
  ⟨if month ≤ 2 then marchYear + 1 else marchYear, month.toNat, d.dayOfMonth.toNat⟩

theorem marchMonth_bounds : 0 ≤ d.marchMonth ∧ d.marchMonth ≤ 11 := by
  have hday := d.day_bounds
  unfold marchMonth
  omega

theorem date_of_early (h : d.marchMonth < 10) (cycle : Int) :
    d.date cycle = ⟨d.yearOfCycle + cycle * 400, (d.marchMonth + 3).toNat, d.dayOfMonth.toNat⟩ := by
  have hmonth := d.marchMonth_bounds
  unfold date
  rw [if_pos h]
  dsimp only
  rw [if_neg (by omega)]

theorem date_of_late (h : ¬ d.marchMonth < 10) (cycle : Int) :
    d.date cycle =
      ⟨d.yearOfCycle + cycle * 400 + 1, (d.marchMonth - 9).toNat, d.dayOfMonth.toNat⟩ := by
  have hmonth := d.marchMonth_bounds
  unfold date
  rw [if_neg h]
  dsimp only
  rw [if_pos (by omega)]

theorem toDays_date (cycle : Int) :
    (d.date cycle).toDays = cycle * 146097 + d.number - 719468 := by
  have hyear := d.yearOfCycle_bounds
  have hday := d.day_bounds
  have hmonth := d.marchMonth_bounds
  have hmarch : (153 * d.marchMonth + 2) / 5 + d.dayOfMonth - 1 = d.day ∧ 1 ≤ d.dayOfMonth := by
    unfold dayOfMonth marchMonth
    omega
  rw [d.number_eq]
  by_cases hearly : d.marchMonth < 10
  · rw [d.date_of_early hearly]
    unfold Date.toDays
    have hback : (((d.marchMonth + 3).toNat : Int) + 9) % 12 = d.marchMonth := by omega
    simp only [hback]
    rw [if_neg (by omega)]
    omega
  · rw [d.date_of_late hearly]
    unfold Date.toDays
    have hback : (((d.marchMonth - 9).toNat : Int) + 9) % 12 = d.marchMonth := by omega
    simp only [hback]
    rw [if_pos (by omega)]
    omega

theorem isLeapYear_of_day_eq (h : d.day = 365) (cycle : Int) :
    Date.isLeapYear (d.yearOfCycle + cycle * 400 + 1) = true := by
  obtain ⟨century, group, year, day, hcentury, hgroup, hyear, hday, hleap⟩ := d
  obtain ⟨rfl, hlast⟩ := hleap h
  unfold Date.isLeapYear
  rw [decide_eq_true_eq]
  show (100 * century + 4 * group + 3 + cycle * 400 + 1) % 4 = 0 ∧
    ((100 * century + 4 * group + 3 + cycle * 400 + 1) % 100 ≠ 0 ∨
      (100 * century + 4 * group + 3 + cycle * 400 + 1) % 400 = 0)
  omega

theorem exists_date (cycle : Int) : (d.date cycle).Exists := by
  have hbounds := d.day_bounds
  have hmonth : d.marchMonth = (5 * d.day + 2) / 153 := rfl
  have hday : d.dayOfMonth = d.day - (153 * d.marchMonth + 2) / 5 + 1 := rfl
  have hfirst : 1 ≤ d.dayOfMonth.toNat := by omega
  by_cases hearly : d.marchMonth < 10
  · rw [d.date_of_early hearly]
    refine ⟨hfirst, ?_⟩
    show d.dayOfMonth.toNat ≤ Date.daysInMonth _ (d.marchMonth + 3).toNat
    unfold Date.daysInMonth
    rw [if_neg (by omega)]
    split
    · omega
    · rw [if_pos (by omega)]
      omega
  · rw [d.date_of_late hearly]
    refine ⟨hfirst, ?_⟩
    show d.dayOfMonth.toNat ≤ Date.daysInMonth _ (d.marchMonth - 9).toNat
    unfold Date.daysInMonth
    split
    · by_cases hleap : d.day = 365
      · rw [if_pos (d.isLeapYear_of_day_eq hleap cycle)]
        omega
      · split <;> omega
    · rw [if_neg (by omega), if_pos (by omega)]
      omega

end CycleDay

namespace Date

variable {d : Date}

theorem Exists.day_le (h : d.Exists) : d.day ≤ 31 := by
  obtain ⟨-, hlast⟩ := h
  unfold daysInMonth at hlast
  split at hlast
  · split at hlast <;> omega
  · split at hlast
    · omega
    · split at hlast <;> omega

theorem Exists.month_le (h : d.Exists) : d.month ≤ 12 := by
  obtain ⟨hfirst, hlast⟩ := h
  unfold daysInMonth at hlast
  split at hlast
  · omega
  · split at hlast
    · omega
    · split at hlast <;> omega

theorem ofDays_eq (days : Int) :
    ∃ (d : CycleDay) (cycle : Int), days = cycle * 146097 + d.number - 719468 ∧
      ofDays days = d.date cycle := by
  obtain ⟨d, hd⟩ := CycleDay.exists_number_eq (n := (days + 719468) % 146097) (by omega)
  refine ⟨d, (days + 719468) / 146097, by omega, ?_⟩
  have hday : (days + 719468) % 146097 -
      (365 * d.yearOfCycle + d.yearOfCycle / 4 - d.yearOfCycle / 100) = d.day := by
    rw [← hd, d.number_eq]
    omega
  unfold ofDays
  simp only [← hd, d.yearOfCycle_eq]
  rw [hd, hday]
  rfl

theorem toDays_ofDays (days : Int) : (ofDays days).toDays = days := by
  obtain ⟨d, cycle, hdays, hdate⟩ := ofDays_eq days
  rw [hdate, d.toDays_date, hdays]

theorem exists_ofDays (days : Int) : (ofDays days).Exists := by
  obtain ⟨d, cycle, -, hdate⟩ := ofDays_eq days
  rw [hdate]
  exact d.exists_date cycle

end Date

end TrainingJobs
