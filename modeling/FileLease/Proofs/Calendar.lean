import FileLease.Instant.Date

/-!
# The calendar

Every number of days is that of the day which the calendar finds for it, and such a day is one that
its month has.
-/
namespace FileLease.Date

theorem monthLength_le (year : Int) (month : Nat) : monthLength year month ≤ 31 := by
  unfold monthLength
  split
  · split <;> decide
  · split <;> decide

theorem weekday_lt (days : Int) : weekday days < 7 := by
  unfold weekday
  omega

/-- Day `r` of year `y` of the cycle; the leap day, if there is one, is the last. -/
def dayOfCycle (y r : Int) : Int :=
  365 * y + y / 4 - y / 100 + r

/-- A year of the cycle, and a day that it has; the year ends in the month of February after it. -/
structure InCycle (y r : Int) : Prop where
  year : 0 ≤ y ∧ y < 400
  day : 0 ≤ r ∧ r ≤ 365
  leap : r = 365 → (y + 1) % 4 = 0 ∧ ((y + 1) % 100 ≠ 0 ∨ (y + 1) % 400 = 0)

/-- The year of day `d`, from its century `a`, its four years `b` and its year among them `k`. -/
private theorem yearOfCycle_of_parts {a b k r d : Int} (ha : 0 ≤ a ∧ a ≤ 3) (hb : 0 ≤ b ∧ b ≤ 24)
    (hk : 0 ≤ k ∧ k ≤ 3) (hr : 0 ≤ r ∧ r ≤ 365) (hl : r = 365 → k = 3 ∧ b ≤ 23)
    (hd : d = 36524 * a + 1461 * b + 365 * k + r) :
    (d - d / 1460 + d / 36524 - d / 146096) / 365 = 100 * a + 4 * b + k := by
  have century : d / 36524 = a := by omega
  have cycle : d / 146096 = 0 := by omega
  rw [century, cycle]
  -- a cycle of four years has a day more than the divisor, so the quotient may be one too high
  rcases Int.lt_or_le (24 * a + b + 365 * k + r) 1460 with below | above
  · have quads : d / 1460 = 25 * a + b := by omega
    have common : r ≤ 364 := by omega
    rw [quads]
    omega
  · have quads : d / 1460 = 25 * a + b + 1 := by omega
    have late : 0 < r := by omega
    rw [quads]
    omega

theorem yearOfCycle_dayOfCycle {y r : Int} (h : InCycle y r) :
    (dayOfCycle y r - dayOfCycle y r / 1460 + dayOfCycle y r / 36524 -
      dayOfCycle y r / 146096) / 365 = y := by
  obtain ⟨year, day, leap⟩ := h
  by_cases last : y = 399 ∧ r = 365
  · obtain ⟨rfl, rfl⟩ := last
    decide
  · have parts : y = 100 * (y / 100) + 4 * (y % 100 / 4) + y % 4 := by omega
    have quads : y / 4 = 25 * (y / 100) + y % 100 / 4 := by omega
    refine (yearOfCycle_of_parts (a := y / 100) (b := y % 100 / 4) (k := y % 4) (r := r) (by omega)
      (by omega) (by omega) day (by omega) ?_).trans parts.symm
    unfold dayOfCycle
    omega

private theorem dayOfCycle_of_parts {a b k : Int} (hb : 0 ≤ b ∧ b ≤ 24)
    (hk : 0 ≤ k ∧ k ≤ 3) (r : Int) :
    dayOfCycle (100 * a + 4 * b + k) r = 36524 * a + 1461 * b + 365 * k + r := by
  unfold dayOfCycle
  omega

private theorem exists_of_parts {a b k r : Int} (ha : 0 ≤ a ∧ a ≤ 3) (hb : 0 ≤ b ∧ b ≤ 24)
    (hk : 0 ≤ k ∧ k ≤ 3) (hr : 0 ≤ r ∧ r ≤ 365) (hl : r = 365 → k = 3 ∧ b ≤ 23) :
    ∃ y r', InCycle y r' ∧ 36524 * a + 1461 * b + 365 * k + r = dayOfCycle y r' :=
  ⟨100 * a + 4 * b + k, r, ⟨by omega, hr, by omega⟩, (dayOfCycle_of_parts hb hk r).symm⟩

theorem exists_dayOfCycle {d : Int} (h0 : 0 ≤ d) (h1 : d < 146097) :
    ∃ y r, InCycle y r ∧ d = dayOfCycle y r := by
  by_cases last : d = 146096
  · subst last
    exact ⟨399, 365, ⟨by decide, by decide, by decide⟩, rfl⟩
  · have century : 0 ≤ d % 36524 ∧ d % 36524 < 36524 := by omega
    have hd : 36524 * (d / 36524) + d % 36524 = d := by omega
    have ha : 0 ≤ d / 36524 ∧ d / 36524 ≤ 3 := by omega
    rw [← hd]
    generalize d / 36524 = a, d % 36524 = d at *
    have quads : 1461 * (d / 1461) + d % 1461 = d := by omega
    have hb : 0 ≤ d / 1461 ∧ d / 1461 ≤ 24 := by omega
    by_cases leap : d % 1461 = 1460
    · obtain ⟨y, r, h, he⟩ := exists_of_parts (k := 3) (r := 365) ha hb (by omega) (by omega)
        (by omega)
      exact ⟨y, r, h, by omega⟩
    · obtain ⟨y, r, h, he⟩ := exists_of_parts (k := d % 1461 / 365) (r := d % 1461 % 365) ha hb
        (by omega) (by omega) (by omega)
      exact ⟨y, r, h, by omega⟩

/-- The month of day `r` of a year that begins in March, March being 0. -/
def marchMonth (r : Int) : Int :=
  (5 * r + 2) / 153

def monthOf (r : Int) : Int :=
  if marchMonth r < 10 then marchMonth r + 3 else marchMonth r - 9

def dayOf (r : Int) : Int :=
  r - (153 * marchMonth r + 2) / 5 + 1

def ofCycle (cycle y r : Int) : Date :=
  ⟨if monthOf r ≤ 2 then y + cycle * 400 + 1 else y + cycle * 400, (monthOf r).toNat,
    (dayOf r).toNat⟩

variable {y r : Int}

theorem monthOf_bounds (h : InCycle y r) :
    1 ≤ monthOf r ∧ monthOf r ≤ 12 ∧ (monthOf r + 9) % 12 = marchMonth r := by
  have := h.day
  unfold monthOf marchMonth
  omega

theorem isLeap_iff {year : Int} :
    isLeap year = true ↔ year % 4 = 0 ∧ (year % 100 ≠ 0 ∨ year % 400 = 0) := by
  simp [isLeap]

theorem dayOf_le (h : InCycle y r) :
    dayOf r ≤ 31 ∧ (monthOf r = 4 ∨ monthOf r = 6 ∨ monthOf r = 9 ∨ monthOf r = 11 →
      dayOf r ≤ 30) := by
  have := h.day
  unfold monthOf dayOf marchMonth
  omega

/-- The days of February, with which the year ends. -/
theorem dayOf_le_of_february (h : InCycle y r) (hm : monthOf r = 2) :
    dayOf r ≤ 29 ∧ (dayOf r = 29 → r = 365) := by
  have := h.day
  unfold monthOf at hm
  unfold dayOf
  unfold marchMonth at *
  omega

theorem dayOf_bounds (h : InCycle y r) (cycle : Int) :
    1 ≤ dayOf r ∧ dayOf r ≤ monthLength (ofCycle cycle y r).year (monthOf r).toNat := by
  have low : 1 ≤ dayOf r := by
    have := h.day
    unfold dayOf marchMonth
    omega
  refine ⟨low, ?_⟩
  by_cases february : monthOf r = 2
  · obtain ⟨hd, last⟩ := dayOf_le_of_february h february
    have leap : dayOf r = 29 → isLeap (y + cycle * 400 + 1) = true := by
      intro he
      have := h.leap (last he)
      rw [isLeap_iff]
      omega
    have length : monthLength (ofCycle cycle y r).year (monthOf r).toNat =
        if isLeap (y + cycle * 400 + 1) then 29 else 28 := by
      simp [monthLength, ofCycle, february]
    rw [length]
    split
    · exact hd
    · rename_i common
      have : dayOf r ≠ 29 := fun he => common (leap he)
      omega
  · obtain ⟨hd, short⟩ := dayOf_le h
    have := monthOf_bounds h
    rw [monthLength, if_neg (by omega)]
    split
    · exact short (by omega)
    · exact hd

theorem toDays_ofCycle (h : InCycle y r) (cycle : Int) :
    toDays (ofCycle cycle y r) = cycle * 146097 + dayOfCycle y r - 719468 := by
  obtain ⟨hm, hm', march⟩ := monthOf_bounds h
  obtain ⟨hd, -⟩ := dayOf_bounds h cycle
  have := h.year
  have month : ((ofCycle cycle y r).month : Int) = monthOf r := Int.toNat_of_nonneg (by omega)
  have day : ((ofCycle cycle y r).day : Int) = dayOf r := Int.toNat_of_nonneg (by omega)
  -- the year that begins in March is the same in all its months
  have year : (if (ofCycle cycle y r).month ≤ 2 then (ofCycle cycle y r).year - 1
      else (ofCycle cycle y r).year) = y + cycle * 400 := by
    simp only [ofCycle]
    omega
  simp only [toDays, year, month, day, march, dayOfCycle, dayOf]
  omega

theorem ofDays_dayOfCycle (h : InCycle y r) (cycle : Int) :
    ofDays (cycle * 146097 + dayOfCycle y r - 719468) = ofCycle cycle y r := by
  have hy := yearOfCycle_dayOfCycle h
  have bounds : 0 ≤ dayOfCycle y r ∧ dayOfCycle y r < 146097 := by
    obtain ⟨year, day, leap⟩ := h
    unfold dayOfCycle
    omega
  have shifted : cycle * 146097 + dayOfCycle y r - 719468 + 719468 =
      cycle * 146097 + dayOfCycle y r := by omega
  have hc : (cycle * 146097 + dayOfCycle y r) / 146097 = cycle := by omega
  have hd : (cycle * 146097 + dayOfCycle y r) % 146097 = dayOfCycle y r := by omega
  have hr : dayOfCycle y r - (365 * y + y / 4 - y / 100) = r := by
    unfold dayOfCycle
    omega
  simp only [ofDays, shifted, hc, hd, hy, hr]
  rfl

theorem exists_ofCycle (days : Int) : ∃ cycle y r, InCycle y r ∧ ofDays days = ofCycle cycle y r ∧
    days = cycle * 146097 + dayOfCycle y r - 719468 := by
  obtain ⟨y, r, h, hd⟩ := exists_dayOfCycle (d := (days + 719468) % 146097) (by omega) (by omega)
  have split : days = (days + 719468) / 146097 * 146097 + dayOfCycle y r - 719468 := by omega
  refine ⟨(days + 719468) / 146097, y, r, h, ?_, split⟩
  rw [← ofDays_dayOfCycle h, ← split]

/-- The day that is found for a number of days is the one with that number. -/
theorem toDays_ofDays (days : Int) : toDays (ofDays days) = days := by
  obtain ⟨cycle, y, r, h, he, hd⟩ := exists_ofCycle days
  rw [he, toDays_ofCycle h, ← hd]

/-- Days of earlier years that begin in March have smaller numbers. -/
theorem number_lt (h : InCycle y r) {cycle cycle' y' r' : Int} (h' : InCycle y' r')
    (hlt : y + cycle * 400 < y' + cycle' * 400) :
    cycle * 146097 + dayOfCycle y r < cycle' * 146097 + dayOfCycle y' r' := by
  obtain ⟨hy, hr, leap⟩ := h
  obtain ⟨hy', hr', -⟩ := h'
  unfold dayOfCycle
  by_cases same : cycle = cycle'
  · subst same
    have hlt : y < y' := by omega
    omega
  · have before : cycle + 1 ≤ cycle' := by omega
    have low : 0 ≤ 365 * y' + y' / 4 - y' / 100 + r' := by omega
    have high : 365 * y + y / 4 - y / 100 + r < 146097 := by omega
    omega

/-- Of two days the one with the smaller number is of an earlier year, or not later in the same. -/
theorem earlier_of_le (h : InCycle y r) {y' r' : Int} (h' : InCycle y' r') (cycle cycle' : Int)
    (hle : cycle * 146097 + dayOfCycle y r ≤ cycle' * 146097 + dayOfCycle y' r') :
    y + cycle * 400 < y' + cycle' * 400 ∨ y + cycle * 400 = y' + cycle' * 400 ∧ r ≤ r' := by
  rcases Int.lt_trichotomy (y + cycle * 400) (y' + cycle' * 400) with lt | same | gt
  · exact .inl lt
  · have := h.year
    have := h'.year
    obtain rfl : cycle = cycle' := by omega
    obtain rfl : y = y' := by omega
    unfold dayOfCycle at hle
    exact .inr ⟨rfl, by omega⟩
  · have := number_lt h' h gt
    omega

theorem monthOf_le_two_iff (h : InCycle y r) : monthOf r ≤ 2 ↔ 306 ≤ r := by
  have := h.day
  unfold monthOf marchMonth
  omega

theorem inCycle_of_lt {r : Int} (year : Int) (h : 0 ≤ r ∧ r < 365) : InCycle (year % 400) r :=
  ⟨by omega, by omega, by omega⟩

/-- Days from the first of January of a year on are not of an earlier year. -/
theorem le_year_ofDays {days year : Int} (h : toDays ⟨year, 1, 1⟩ ≤ days) :
    year ≤ (ofDays days).year := by
  obtain ⟨cycle, y, r, hc, he, hd⟩ := exists_ofCycle days
  have january : InCycle ((year - 1) % 400) 306 := inCycle_of_lt _ (by decide)
  have first : toDays ⟨year, 1, 1⟩ =
      (year - 1) / 400 * 146097 + dayOfCycle ((year - 1) % 400) 306 - 719468 := by
    simp [toDays, dayOfCycle]
    omega
  have earlier := earlier_of_le january hc ((year - 1) / 400) cycle (by omega)
  rw [he]
  simp only [ofCycle, monthOf_le_two_iff hc]
  split <;> omega

/-- Days up to the end of a year are not of a later year. -/
theorem year_ofDays_le {days year : Int} (h : days ≤ toDays ⟨year, 12, 31⟩) :
    (ofDays days).year ≤ year := by
  obtain ⟨cycle, y, r, hc, he, hd⟩ := exists_ofCycle days
  have december : InCycle (year % 400) 305 := inCycle_of_lt _ (by decide)
  have last : toDays ⟨year, 12, 31⟩ =
      year / 400 * 146097 + dayOfCycle (year % 400) 305 - 719468 := by
    simp [toDays, dayOfCycle]
    omega
  have earlier := earlier_of_le hc december cycle (year / 400) (by omega)
  rw [he]
  simp only [ofCycle, monthOf_le_two_iff hc]
  split <;> omega

/-- The days from the first to the last of the calendar in use are days that their months have. -/
theorem valid_ofDays {days : Int} (first : toDays ⟨firstYear, 1, 1⟩ ≤ days)
    (last : days ≤ toDays ⟨lastYear, 12, 31⟩) : (ofDays days).Valid := by
  have low := le_year_ofDays first
  have high := year_ofDays_le last
  obtain ⟨cycle, y, r, hc, he, -⟩ := exists_ofCycle days
  have month := monthOf_bounds hc
  have day := dayOf_bounds hc cycle
  rw [he] at low high ⊢
  refine ⟨low, high, ?_, ?_, ?_, ?_⟩ <;> simp only [ofCycle] at * <;> omega

end FileLease.Date
