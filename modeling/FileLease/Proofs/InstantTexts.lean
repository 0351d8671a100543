import FileLease.Instant.Rfc3339
import FileLease.Proofs.HttpDates

/-!
# Instants as texts

Every instant of the calendar in use is read back from its text, leap seconds and years of more than
four digits included, and a date of HTTP names no other instants.
-/
namespace FileLease.Instant
open Text

theorem trimStart_writeYear (year : Int) (rest : List Char) :
    trimStart (writeYear year ++ rest) = writeYear year ++ rest := by
  unfold writeYear
  split
  · exact trimStart_padded (by decide) _ _
  · split
    · exact trimStart_cons (by decide) _
    · exact trimStart_cons (by decide) _

def YearInRange (year : Int) : Prop :=
  -2147483648 ≤ year ∧ year ≤ 2147483647

theorem scanYear_writeYear {year : Int} (range : YearInRange year) (rest : List Char) :
    scanYear (writeYear year ++ '-' :: rest) = .ok (year, '-' :: rest) := by
  have dash : '-'.isDigit = false := rfl
  unfold YearInRange at range
  unfold writeYear
  split
  next h =>
    have length : (padded 4 year.toNat).length = 4 :=
      padded_length (by decide) (show year.toNat < 10000 by omega)
    have read := scanNumber_upTo (by omega : 1 ≤ (padded 4 year.toNat).length)
      (Nat.le_of_eq length) dash rest
    have whole : (year.toNat : Int) = year := Int.toNat_of_nonneg h.1
    have sign {c : Char} (h : (padded 4 year.toNat ++ '-' :: rest).head? = some c) :
        c.isDigit = true := by
      obtain ⟨d, digits, front, digit⟩ := padded_eq_cons (by decide : 0 < 4) year.toNat
      rw [front] at h
      exact Option.some.inj h ▸ digit
    unfold scanYear
    split
    next heq => exact absurd (sign (c := '-') (by rw [heq]; rfl)) (by decide)
    next heq => exact absurd (sign (c := '+') (by rw [heq]; rfl)) (by decide)
    next =>
      simp only [read, Except.map, ok_bind, whole]
      rw [if_pos range]
      rfl
  next h =>
    have digits := le_padded_length 4 year.natAbs
    have read := scanNumber_padded (by omega : 1 ≤ (padded 4 year.natAbs).length) dash rest
    by_cases negative : year < 0
    · have whole : -(year.natAbs : Int) = year := by omega
      rw [if_pos negative, List.cons_append, scanYear]
      simp only [read, Except.map, ok_bind, whole]
      rw [if_pos range]
      rfl
    · have whole : (year.natAbs : Int) = year := by omega
      rw [if_neg negative, List.cons_append, scanYear]
      simp only [read, Except.map, ok_bind, whole]
      rw [if_pos range]
      rfl

theorem scanFraction_digits {width n : Nat} (hw : (padded width n).length = width)
    (pos : 0 < width) (hm : width ≤ 9) (rest : List Char) :
    scanFraction ('.' :: (padded width n ++ 'Z' :: rest)) =
      .ok (n * Nat.pow 10 (9 - width), 'Z' :: rest) := by
  have read := scanNumber_upTo (by omega : 1 ≤ (padded width n).length) (by omega : _ ≤ 9)
    (by decide : 'Z'.isDigit = false) rest
  simp [scanFraction, read, hw]

/-- The digits after the point name the nanoseconds. -/
theorem scanFraction_writeFraction {nanos : Nat} (h : nanos < 1000000000) (rest : List Char) :
    scanFraction (writeFraction nanos ++ 'Z' :: rest) = .ok (nanos, 'Z' :: rest) := by
  have digits {width n : Nat} (pos : 0 < width) (hm : width ≤ 9) (small : n < Nat.pow 10 width)
      (same : n * Nat.pow 10 (9 - width) = nanos) :
      scanFraction ('.' :: padded width n ++ 'Z' :: rest) = .ok (nanos, 'Z' :: rest) := by
    rw [List.cons_append, scanFraction_digits (padded_length pos small) pos hm, same]
  unfold writeFraction
  split
  next zero =>
    rw [zero]
    rfl
  split
  next =>
    exact digits (by decide) (by decide) (show _ < 1000 by omega) (show _ * 1000000 = _ by omega)
  split
  next =>
    exact digits (by decide) (by decide) (show _ < 1000000 by omega) (show _ * 1000 = _ by omega)
  next => exact digits (by decide) (by decide) h (Nat.mul_one nanos)

variable {t : Instant}

/-- A time of day as clocks show it, leap seconds included. -/
structure Time.Shown (time : Time) : Prop where
  hour : time.hour < 24
  minute : time.minute < 60
  second : time.second ≤ 60
  nanos : time.nanos < 1000000000

theorem shown_civil (inUse : t.Representable) : t.civil.2.Shown := by
  obtain ⟨-, -, nanos, -⟩ := inUse
  constructor
  · simp only [civil]
    omega
  · simp only [civil]
    omega
  · simp only [civil]
    split <;> omega
  · simp only [civil]
    split <;> omega

def shown (date : Date) (time : Time) (offset : Int) : Instant :=
  ⟨date.toDays * 86400 + time.hour * 3600 + time.minute * 60 +
      (if time.second = 60 then 59 else time.second) - offset,
    if time.second = 60 then time.nanos + 1000000000 else time.nanos⟩

theorem ofLocal_eq_ok_iff {date : Date} {weekday : Option Nat} {time : Time} {offset : Int} :
    ofLocal date weekday time offset = .ok t ↔
      date.Valid ∧ weekday.all (· == Date.weekday date.toDays) = true ∧
        (-86400 < offset ∧ offset < 86400) ∧
        (firstSecond ≤ t.seconds ∧ t.seconds ≤ lastSecond) ∧ shown date time offset = t := by
  have inRange (valid : date.Valid) (named : weekday.all (· == Date.weekday date.toDays) = true)
      (near : -86400 < offset ∧ offset < 86400) : ofLocal date weekday time offset =
        if firstSecond ≤ (shown date time offset).seconds ∧
            (shown date time offset).seconds ≤ lastSecond then .ok (shown date time offset)
        else .error .impossible := by
    simp only [ofLocal, valid, named, near, and_self, if_true, pure_eq_ok]
    rfl
  constructor
  · intro h
    by_cases valid : date.Valid
    · by_cases named : weekday.all (· == Date.weekday date.toDays) = true
      · by_cases near : -86400 < offset ∧ offset < 86400
        · rw [inRange valid named near] at h
          split at h
          next inUse => exact Except.ok.inj h ▸ ⟨valid, named, near, inUse, rfl⟩
          next => cases h
        · simp [ofLocal, valid, named, near] at h
      · simp [ofLocal, valid, named] at h
    · simp [ofLocal, valid] at h
  · rintro ⟨valid, named, near, inUse, rfl⟩
    rw [inRange valid named near, if_pos inUse]

/-- What a clock of universal time shows names the instant. -/
theorem ofLocal_civil_utc (inUse : t.Representable) :
    ofLocal t.civil.1 none t.civil.2 0 = .ok t := by
  have valid := valid_civil inUse
  have days : t.civil.1.toDays = t.seconds / 86400 := Date.toDays_ofDays _
  obtain ⟨first, last, nanos, leap⟩ := inUse
  refine ofLocal_eq_ok_iff.mpr ⟨valid, rfl, by decide, ⟨first, last⟩, ?_⟩
  have time : t.civil.2 = ⟨(t.seconds % 86400).toNat / 3600, (t.seconds % 86400).toNat / 60 % 60,
      (t.seconds % 86400).toNat % 60 + (if 1000000000 ≤ t.nanos then 1 else 0),
      if 1000000000 ≤ t.nanos then t.nanos - 1000000000 else t.nanos⟩ := rfl
  rw [shown, days, time]
  by_cases late : 1000000000 ≤ t.nanos
  · have second : (t.seconds % 86400).toNat % 60 + 1 = 60 := by
      have := leap late
      omega
    simp only [if_pos late, second, if_true]
    congr 1 <;> omega
  · have second : ¬ (t.seconds % 86400).toNat % 60 + 0 = 60 := by omega
    simp only [if_neg late, if_neg second]
    congr 1
    omega

/-- An instant is read back. -/
theorem ofRfc3339_toRfc3339 (inUse : t.Representable) : ofRfc3339 t.toRfc3339 = .ok t := by
  have valid := valid_civil inUse
  have length := Date.monthLength_le t.civil.1.year t.civil.1.month
  have named := ofLocal_civil_utc inUse
  obtain ⟨hour, minute, second, nanos⟩ := shown_civil inUse
  obtain ⟨low, high, month, month', day, day'⟩ := id valid
  have year : YearInRange t.civil.1.year := by
    unfold Date.firstYear at low
    unfold Date.lastYear at high
    unfold YearInRange
    omega
  have two : 0 < 2 := by decide
  have dash : isBlank '-' = false := by decide
  have colon : isBlank ':' = false := by decide
  have zone : isBlank 'Z' = false := by decide
  simp only [toRfc3339, ofRfc3339, String.toList_ofList, List.append_assoc, List.cons_append]
  rw [trimStart_writeYear, scanYear_writeYear year]
  simp only [ok_bind, trimStart_cons dash, scanChar, if_true, trimStart_padded two]
  rw [scanBetween_two (by omega) (by decide) month (by omega)]
  simp only [ok_bind, trimStart_cons dash, if_true, trimStart_padded two]
  rw [scanBetween_two (by omega) (by decide) day (by omega)]
  simp only [ok_bind, true_or, if_true, pure_eq_ok, trimStart_padded two]
  rw [scanBetween_two (by omega) (by decide) (Nat.zero_le _) (by omega)]
  simp only [ok_bind, trimStart_cons colon, if_true, trimStart_padded two]
  rw [scanBetween_two (by omega) (by decide) (Nat.zero_le _) (by omega)]
  simp only [ok_bind, trimStart_cons colon, if_true, trimStart_padded two]
  rw [scanBetween_two (by omega) (by decide) (Nat.zero_le _) (by omega)]
  simp only [ok_bind]
  rw [scanFraction_writeFraction nanos]
  simp only [ok_bind, trimStart_cons zone]
  exact named

example : (⟨253402300799, 1500000000⟩ : Instant).toRfc3339 = "9999-12-31T23:59:60.500Z" := by
  decide +kernel

theorem scanTime_nanos {s rest : List Char} {time : Time} (h : scanTime s = .ok (time, rest)) :
    time.nanos = 0 := by
  obtain ⟨⟨hour, afterHour⟩, -, h⟩ := bind_eq_ok.mp h
  obtain ⟨afterColon, -, h⟩ := bind_eq_ok.mp h
  obtain ⟨⟨minute, afterMinute⟩, -, h⟩ := bind_eq_ok.mp h
  dsimp only at h
  split at h
  next =>
    obtain ⟨second, -, h⟩ := bind_eq_ok.mp h
    cases h
    rfl
  next =>
    cases h
    rfl

theorem scanHoursMinutes_minutes {between : List Char → List Char} {s rest : List Char} {n : Nat}
    (h : scanHoursMinutes between s = .ok (n, rest)) : n % 60 = 0 := by
  obtain ⟨⟨hours, afterHours⟩, -, h⟩ := bind_eq_ok.mp h
  obtain ⟨⟨minutes, afterMinutes⟩, -, h⟩ := bind_eq_ok.mp h
  dsimp only at h
  split at h
  next =>
    cases h
    omega
  next => cases h

/-- A sign before hours and minutes. -/
private theorem signed_minutes {between : List Char → List Char} {s rest : List Char} {offset : Int}
    (sign : Nat → Int) (keeps : ∀ n, n % 60 = 0 → sign n % 60 = 0)
    (h : (scanHoursMinutes between s).map (fun found => (sign found.1, found.2)) =
      .ok (offset, rest)) : offset % 60 = 0 := by
  obtain ⟨found, scanned, same⟩ := map_eq_ok.mp h
  cases same
  exact keeps _ (scanHoursMinutes_minutes scanned)

/-- Offsets from universal time are whole minutes. -/
theorem scanZone_minutes {s rest : List Char} {offset : Int} (h : scanZone s = .ok (offset, rest)) :
    offset % 60 = 0 := by
  unfold scanZone at h
  dsimp only at h
  split at h
  next =>
    split at h
    next => cases h
    next => exact signed_minutes (fun n => n) (fun n h => by omega) h
    next => exact signed_minutes (fun n => -n) (fun n h => by omega) h
    next => cases h
  next =>
    split at h
    next =>
      cases h
      omega
    next => cases h

/-- A date of HTTP names what a clock shows to the second, ahead of universal time by minutes. -/
theorem exists_ofLocal {s : String} (h : ofRfc2822 s = .ok t) : ∃ date weekday time offset,
    time.nanos = 0 ∧ offset % 60 = 0 ∧ ofLocal date weekday time offset = .ok t := by
  unfold ofRfc2822 at h
  dsimp only at h
  split at h
  all_goals
    obtain ⟨⟨weekday, afterWeekday⟩, -, h⟩ := bind_eq_ok.mp h
    obtain ⟨⟨day, afterDay⟩, -, h⟩ := bind_eq_ok.mp h
    obtain ⟨blanks, -, h⟩ := bind_eq_ok.mp h
    dsimp only at h
    split at h
  all_goals
    obtain ⟨⟨month, afterMonth⟩, -, h⟩ := bind_eq_ok.mp h
    obtain ⟨blanks', -, h⟩ := bind_eq_ok.mp h
    obtain ⟨⟨year, afterYear⟩, -, h⟩ := bind_eq_ok.mp h
    dsimp only at h
    split at h
    next =>
      obtain ⟨afterBlanks, -, h⟩ := bind_eq_ok.mp h
      obtain ⟨⟨time, afterTime⟩, scanned, h⟩ := bind_eq_ok.mp h
      obtain ⟨afterBlanks, -, h⟩ := bind_eq_ok.mp h
      obtain ⟨⟨offset, afterZone⟩, scanned', h⟩ := bind_eq_ok.mp h
      dsimp only at h
      split at h
      next =>
        exact ⟨_, _, _, _, scanTime_nanos scanned, scanZone_minutes scanned', h⟩
      next => cases h
    next => cases h

/-- What clocks show to the nanosecond, ahead of universal time by minutes, is of the calendar in
use. -/
theorem representable_of_ofLocal {date : Date} {weekday : Option Nat} {time : Time} {offset : Int}
    (small : time.nanos < 1000000000) (minutes : offset % 60 = 0)
    (h : ofLocal date weekday time offset = .ok t) : t.Representable := by
  obtain ⟨-, -, -, ⟨first, last⟩, rfl⟩ := ofLocal_eq_ok_iff.mp h
  refine ⟨first, last, ?_, fun late => ?_⟩
  · simp only [shown]
    split <;> omega
  · simp only [shown] at late ⊢
    split at late
    next leap =>
      rw [if_pos leap]
      omega
    next => omega

/-- The instant of a date of HTTP is one of the calendar in use. -/
theorem representable_of_ofRfc2822 {s : String} (h : ofRfc2822 s = .ok t) : t.Representable := by
  obtain ⟨date, weekday, time, offset, whole, minutes, h⟩ := exists_ofLocal h
  exact representable_of_ofLocal (by omega) minutes h

theorem scanNumber_spec {least most n : Nat} {s rest : List Char}
    (h : scanNumber least (some most) s = .ok (n, rest)) : ∃ digits, s = digits ++ rest ∧
      digits.length ≤ most ∧ (∀ c ∈ digits, c.isDigit = true) ∧
      n = Nat.ofDigitChars 10 digits 0 := by
  simp only [scanNumber] at h
  split at h
  next => cases h
  next =>
    cases h
    have front : (s.take most).takeWhile Char.isDigit <+: s :=
      (List.takeWhile_prefix _).trans (List.take_prefix most s)
    refine ⟨_, (List.prefix_iff_eq_append.mp front).symm, ?_, ?_, rfl⟩
    · exact Nat.le_trans (List.takeWhile_prefix _).length_le (List.length_take_le most s)
    · exact fun c hc => List.all_eq_true.mp List.all_takeWhile c hc

/-- Nine digits are counted at most, so nanoseconds do not add up to a second. -/
theorem scanFraction_lt {s rest : List Char} {nanos : Nat}
    (h : scanFraction s = .ok (nanos, rest)) : nanos < 1000000000 := by
  unfold scanFraction at h
  split at h
  next s =>
    obtain ⟨⟨n, after⟩, scanned, h⟩ := bind_eq_ok.mp h
    cases h
    obtain ⟨digits, rfl, short, all, rfl⟩ := scanNumber_spec scanned
    have less := ofDigitChars_lt all 0
    have places : 0 < Nat.pow 10 (9 - digits.length) := Nat.pow_pos (by decide)
    have count : (digits ++ after).length - after.length = digits.length := by simp
    rw [count]
    calc Nat.ofDigitChars 10 digits 0 * Nat.pow 10 (9 - digits.length)
        < (0 + 1) * Nat.pow 10 digits.length * Nat.pow 10 (9 - digits.length) :=
          Nat.mul_lt_mul_of_pos_right less places
      _ = Nat.pow 10 (digits.length + (9 - digits.length)) := by
          rw [Nat.zero_add, Nat.one_mul]
          exact (Nat.pow_add 10 _ _).symm
      _ = 1000000000 := by rw [Nat.add_sub_cancel' short]
  next =>
    cases h
    decide

theorem scanOffset_minutes {s rest : List Char} {offset : Int}
    (h : scanOffset s = .ok (offset, rest)) : offset % 60 = 0 := by
  unfold scanOffset at h
  split at h
  next => cases h
  split at h
  next =>
    cases h
    rfl
  split at h
  next =>
    cases h
    rfl
  split at h
  next => exact signed_minutes (fun n => n) (fun n h => by omega) h
  split at h
  next => exact signed_minutes (fun n => -n) (fun n h => by omega) h
  next => cases h

/-- The instant of a text is one of the calendar in use. -/
theorem representable_of_ofRfc3339 {s : String} (h : ofRfc3339 s = .ok t) : t.Representable := by
  obtain ⟨⟨year, afterYear⟩, -, h⟩ := bind_eq_ok.mp h
  obtain ⟨afterDash, -, h⟩ := bind_eq_ok.mp h
  obtain ⟨⟨month, afterMonth⟩, -, h⟩ := bind_eq_ok.mp h
  obtain ⟨afterDash', -, h⟩ := bind_eq_ok.mp h
  obtain ⟨⟨day, afterDay⟩, -, h⟩ := bind_eq_ok.mp h
  dsimp only at h
  split at h
  next => cases h
  split at h
  next =>
    obtain ⟨afterMark, -, h⟩ := bind_eq_ok.mp h
    obtain ⟨⟨hour, afterHour⟩, -, h⟩ := bind_eq_ok.mp h
    obtain ⟨afterColon, -, h⟩ := bind_eq_ok.mp h
    obtain ⟨⟨minute, afterMinute⟩, -, h⟩ := bind_eq_ok.mp h
    obtain ⟨afterColon', -, h⟩ := bind_eq_ok.mp h
    obtain ⟨⟨second, afterSecond⟩, -, h⟩ := bind_eq_ok.mp h
    obtain ⟨⟨nanos, afterFraction⟩, fraction, h⟩ := bind_eq_ok.mp h
    obtain ⟨⟨offset, afterOffset⟩, minutes, h⟩ := bind_eq_ok.mp h
    dsimp only at h
    split at h
    next =>
      exact representable_of_ofLocal (scanFraction_lt fraction) (scanOffset_minutes minutes) h
    next => cases h
  next => cases h

end FileLease.Instant
