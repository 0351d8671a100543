import FileLease.Instant.Rfc2822
import FileLease.Proofs.Calendar
import FileLease.Proofs.NumeralWidths
import FileLease.Proofs.ServiceRuns

/-!
# Dates as HTTP writes them

What is read from a written date is what its parts say, and an instant is read back as it was
written.
-/
namespace FileLease.Instant
open Text

theorem padded_eq_cons {width : Nat} (hw : 0 < width) (n : Nat) :
    ∃ c digits, padded width n = c :: digits ∧ c.isDigit = true := by
  cases hp : padded width n with
  | nil =>
    have length := le_padded_length width n
    rw [hp, List.length_nil] at length
    omega
  | cons c digits => exact ⟨c, digits, rfl, isDigit_of_mem_padded (hp ▸ List.mem_cons_self)⟩

theorem trimStart_cons {c : Char} (hc : isBlank c = false) (rest : List Char) :
    trimStart (c :: rest) = c :: rest := by
  rw [trimStart, List.dropWhile_cons_of_neg (by simp [hc])]

theorem trimStart_padded {width : Nat} (hw : 0 < width) (n : Nat) (rest : List Char) :
    trimStart (padded width n ++ rest) = padded width n ++ rest := by
  obtain ⟨c, digits, hp, hc⟩ := padded_eq_cons hw n
  rw [hp, List.cons_append, trimStart_cons (isBlank_digit hc)]

theorem takeWhile_padded (width n : Nat) {rest : List Char}
    (stop : rest.takeWhile Char.isDigit = []) :
    (padded width n ++ rest).takeWhile Char.isDigit = padded width n := by
  rw [List.takeWhile_append_of_pos fun c hc => isDigit_of_mem_padded hc, stop, List.append_nil]

/-- A numeral that may have as many digits as it has is read up to the next character. -/
theorem scanNumber_upTo {width n least most : Nat} (hl : least ≤ (padded width n).length)
    (hm : (padded width n).length ≤ most) {c : Char} (hc : c.isDigit = false)
    (rest : List Char) :
    scanNumber least (some most) (padded width n ++ c :: rest) = .ok (n, c :: rest) := by
  have stop : ((c :: rest).take (most - (padded width n).length)).takeWhile Char.isDigit = [] := by
    cases most - (padded width n).length with
    | zero => rfl
    | succ k => exact List.takeWhile_cons_of_neg (by simp [hc])
  have digits : ((padded width n ++ c :: rest).take most).takeWhile Char.isDigit =
      padded width n := by
    rw [List.take_append, List.take_of_length_le hm, takeWhile_padded width n stop]
  simp only [scanNumber, digits, ofDigitChars_padded]
  rw [if_neg (by omega), List.drop_left]

theorem scanNumber_two {n least : Nat} (hn : n < 100) (hl : least ≤ 2) (rest : List Char) :
    scanNumber least (some 2) (padded 2 n ++ rest) = .ok (n, rest) := by
  have length : (padded 2 n).length = 2 := padded_length (by decide) hn
  have digits : ((padded 2 n ++ rest).take 2).takeWhile Char.isDigit = padded 2 n := by
    rw [List.take_left' length, ← List.append_nil (padded 2 n), takeWhile_padded 2 n rfl,
      List.append_nil]
  simp only [scanNumber, digits, ofDigitChars_padded, length]
  rw [if_neg (by omega), List.drop_left' length]

theorem scanBetween_two {n low high least : Nat} (hn : n < 100) (hl : least ≤ 2) (h : low ≤ n)
    (h' : n ≤ high) (rest : List Char) :
    scanBetween low high least (some 2) (padded 2 n ++ rest) = .ok (n, rest) := by
  simp [scanBetween, scanNumber_two hn hl, h, h']

/-- A numeral is read up to the first character that is no digit. -/
theorem scanNumber_padded {width n least : Nat} (hl : least ≤ (padded width n).length)
    {c : Char} (hc : c.isDigit = false) (rest : List Char) :
    scanNumber least none (padded width n ++ c :: rest) = .ok (n, c :: rest) := by
  have digits : (padded width n ++ c :: rest).takeWhile Char.isDigit = padded width n :=
    takeWhile_padded width n (List.takeWhile_cons_of_neg (by simp [hc]))
  simp only [scanNumber, digits, ofDigitChars_padded]
  rw [if_neg (by omega), List.drop_left]

def nameAt (names : List String) (n : Nat) : List Char :=
  ((names[n]?).getD "").toList

/-- A name of three letters that a list has at one place only. -/
structure NameAt (names : List String) (n : Nat) : Prop where
  length : (nameAt names n).length = 3
  place : (names.findIdx? fun name =>
    name.toList.map Char.toLower == (nameAt names n).map Char.toLower) = some n
  visible : (nameAt names n).any isBlank = false

theorem nameAt_iff {names : List String} {n : Nat} : NameAt names n ↔
    (nameAt names n).length = 3 ∧ (names.findIdx? fun name =>
      name.toList.map Char.toLower == (nameAt names n).map Char.toLower) = some n ∧
      (nameAt names n).any isBlank = false :=
  ⟨fun h => ⟨h.length, h.place, h.visible⟩,
    fun ⟨length, place, visible⟩ => ⟨length, place, visible⟩⟩

instance (names : List String) (n : Nat) : Decidable (NameAt names n) :=
  decidable_of_iff' _ nameAt_iff

theorem weekdayName : ∀ w < 7, NameAt weekdayNames w := by
  decide

theorem monthName : ∀ m < 12, NameAt monthNames m := by
  decide

variable {names : List String} {n : Nat}

theorem NameAt.scan (h : NameAt names n) (rest : List Char) :
    scanName? names (nameAt names n ++ rest) = some (n, rest) := by
  simp only [scanName?, List.take_left' h.length, List.drop_left' h.length, h.place]
  rfl

theorem NameAt.trimStart (h : NameAt names n) (rest : List Char) :
    trimStart (nameAt names n ++ rest) = nameAt names n ++ rest := by
  cases hn : nameAt names n with
  | nil =>
    have := h.length
    rw [hn] at this
    cases this
  | cons c name =>
    have visible := h.visible
    rw [hn, List.any_cons, Bool.or_eq_false_iff] at visible
    rw [List.cons_append, trimStart_cons visible.1]

def Gap (s : List Char) : Prop :=
  ∀ c ∈ s, c = ' ' ∨ c = '\t'

instance (s : List Char) : Decidable (Gap s) :=
  List.decidableBAll (fun c : Char => c = ' ' ∨ c = '\t') s

/-- How a date is written: the blanks between its parts, how many digits its day has at least, and
whether its seconds are written. -/
structure DateLayout where
  afterComma : List Char
  afterDay : List Char
  afterMonth : List Char
  afterYear : List Char
  afterTime : List Char
  dayWidth : Nat
  seconds : Bool

namespace DateLayout

/-- There are blanks between the parts, but for the comma, which is enough. -/
structure Sound (l : DateLayout) : Prop where
  afterComma : Gap l.afterComma
  afterDay : l.afterDay ≠ [] ∧ Gap l.afterDay
  afterMonth : l.afterMonth ≠ [] ∧ Gap l.afterMonth
  afterYear : l.afterYear ≠ [] ∧ Gap l.afterYear
  afterTime : l.afterTime ≠ [] ∧ Gap l.afterTime
  dayWidth : l.dayWidth = 1 ∨ l.dayWidth = 2

def usual : DateLayout :=
  ⟨[' '], [' '], [' '], [' '], [' '], 2, true⟩

theorem sound_usual : usual.Sound := by
  constructor <;> decide

def dayText (l : DateLayout) (weekday : Nat) (date : Date) : List Char :=
  nameAt weekdayNames weekday ++ ',' :: (l.afterComma ++ (padded l.dayWidth date.day ++
    (l.afterDay ++ (nameAt monthNames (date.month - 1) ++ (l.afterMonth ++
      padded 4 date.year.toNat)))))

def timeText (l : DateLayout) (time : Time) : List Char :=
  padded 2 time.hour ++ ':' :: (padded 2 time.minute ++
    if l.seconds then ':' :: padded 2 time.second else [])

def text (l : DateLayout) (weekday : Nat) (date : Date) (time : Time) (zone : List Char) :
    List Char :=
  l.dayText weekday date ++ (l.afterYear ++ (l.timeText time ++ (l.afterTime ++ zone)))

end DateLayout

structure Time.OnClock (time : Time) : Prop where
  hour : time.hour < 24
  minute : time.minute < 60
  second : time.second ≤ 60
  nanos : time.nanos = 0

variable {l : DateLayout} {w : Nat} {date : Date} {time : Time} {gap zone : List Char}

theorem isBlank_of_mem_gap (h : Gap gap) {c : Char} (hc : c ∈ gap) : isBlank c = true := by
  rcases h c hc with rfl | rfl <;> decide

theorem trimStart_gap (h : Gap gap) (s : List Char) : trimStart (gap ++ s) = trimStart s :=
  List.dropWhile_append_of_pos fun _ hc => isBlank_of_mem_gap h hc

/-- All blanks are passed over, if there is one. -/
theorem scanBlanks_gap (h : gap ≠ [] ∧ Gap gap) (s : List Char) :
    scanBlanks (gap ++ s) = .ok (trimStart s) := by
  obtain ⟨ne, blank⟩ := h
  obtain ⟨c, more, rfl⟩ := List.exists_cons_of_ne_nil ne
  have first := isBlank_of_mem_gap blank List.mem_cons_self
  rw [List.cons_append, scanBlanks, if_pos first, ← List.cons_append, trimStart_gap blank]

/-- No blank is a digit. -/
theorem exists_gap_cons (h : gap ≠ [] ∧ Gap gap) (s : List Char) :
    ∃ c rest, gap ++ s = c :: rest ∧ c.isDigit = false := by
  obtain ⟨ne, blank⟩ := h
  obtain ⟨c, more, rfl⟩ := List.exists_cons_of_ne_nil ne
  refine ⟨c, more ++ s, rfl, ?_⟩
  rcases blank c List.mem_cons_self with rfl | rfl <;> rfl

theorem fullYear_of_four {digits : Nat} (h : 4 ≤ digits) (year : Nat) :
    fullYear digits year = year := by
  rw [fullYear, if_neg (by omega), if_neg (by omega)]

def scanClock (w : Nat) (date : Date) (s : List Char) : Except Fault Instant := do
  let (time, rest) ← scanTime s
  let rest ← scanBlanks rest
  let (offset, rest) ← scanZone rest
  unless isComments 0 rest do throw .tooLong
  ofLocal date (some w) time offset

/-- A day is read, unless its number is none that a month may have. -/
theorem ofRfc2822_dayText (sound : l.Sound) (hw : w < 7) (day : date.day < 100)
    (month : 1 ≤ date.month ∧ date.month ≤ 12) (year : 0 ≤ date.year ∧ date.year ≤ 2147483647)
    (rest : List Char) :
    ofRfc2822 (String.ofList (l.dayText w date ++ (l.afterYear ++ rest))) =
      if 1 ≤ date.day ∧ date.day ≤ 31 then scanClock w date (trimStart rest)
      else .error .outOfRange := by
  have weekday := weekdayName w hw
  have name := monthName (date.month - 1) (by omega)
  have four : 0 < 4 := by decide
  have width : 0 < l.dayWidth ∧ l.dayWidth ≤ 2 := by
    have := sound.dayWidth
    omega
  have digits := le_padded_length 4 date.year.toNat
  have dayDigits := Nat.le_trans width.1 (le_padded_length l.dayWidth date.day)
  have dayDigits' := padded_length_le width.2 (by decide) day
  obtain ⟨c, afterDay, front, stop⟩ := exists_gap_cons sound.afterDay
    (nameAt monthNames (date.month - 1) ++ (l.afterMonth ++ (padded 4 date.year.toNat ++
      (l.afterYear ++ rest))))
  obtain ⟨c', afterYear, front', stop'⟩ := exists_gap_cons sound.afterYear rest
  have hy : (date.year.toNat : Int) = date.year := Int.toNat_of_nonneg year.1
  have hm : date.month - 1 + 1 = date.month := by omega
  simp only [ofRfc2822, String.toList_ofList, DateLayout.dayText, List.append_assoc,
    List.cons_append, weekday.trimStart, weekday.scan]
  simp only [scanChar, if_true, Except.map, ok_bind, trimStart_gap sound.afterComma,
    trimStart_padded width.1]
  rw [front, scanBetween, scanNumber_upTo dayDigits dayDigits' stop, ok_bind, ← front]
  by_cases inMonth : 1 ≤ date.day ∧ date.day ≤ 31
  · simp only [if_pos inMonth, pure_eq_ok, ok_bind]
    rw [scanBlanks_gap sound.afterDay, ok_bind, name.trimStart, name.scan]
    dsimp only
    rw [scanBlanks_gap sound.afterMonth, ok_bind, trimStart_padded four, front',
      scanNumber_padded (by omega) stop']
    simp only [ok_bind, List.length_append, Nat.add_sub_cancel, fullYear_of_four digits]
    rw [if_pos (by omega), ← front', scanBlanks_gap sound.afterYear, ok_bind]
    simp only [hy, hm]
    rfl
  · simp only [if_neg inMonth, throw_eq_error, error_bind]

theorem scanTime_timeText (clock : time.OnClock) (whole : l.seconds = true ∨ time.second = 0)
    (rest : List Char) (stop : (trimStart rest).head? ≠ some ':') :
    scanTime (l.timeText time ++ rest) = .ok (time, rest) := by
  obtain ⟨hour, minute, second, nanos⟩ := time
  obtain ⟨hh, hm, hs, rfl⟩ := clock
  dsimp only at hh hm hs whole
  have colon : isBlank ':' = false := by decide
  simp only [DateLayout.timeText, List.append_assoc, List.cons_append, scanTime]
  rw [scanBetween_two (by omega) (by decide) (Nat.zero_le _) (by omega)]
  simp only [ok_bind, trimStart_cons colon, scanChar, if_true, trimStart_padded (by decide : 0 < 2)]
  rw [scanBetween_two (by omega) (by decide) (Nat.zero_le _) (by omega)]
  simp only [ok_bind]
  cases written : l.seconds with
  | true =>
    simp only [if_true, List.cons_append, trimStart_cons colon]
    rw [scanBetween_two (by omega) (by decide) (Nat.zero_le _) (by omega)]
    rfl
  | false =>
    obtain rfl : second = 0 := by simpa [written] using whole
    simp only [Bool.false_eq_true, if_false, List.nil_append]
    split
    next heq =>
      rw [heq] at stop
      exact absurd rfl stop
    next => rfl

theorem trimStart_timeText (l : DateLayout) (time : Time) (rest : List Char) :
    trimStart (l.timeText time ++ rest) = l.timeText time ++ rest := by
  simp only [DateLayout.timeText, List.append_assoc, trimStart_padded (by decide : 0 < 2)]

theorem plain_nameAt {names : List String} (h : ∀ name ∈ names, Plain name.toList) (n : Nat) :
    Plain (nameAt names n) := by
  rw [nameAt]
  cases hn : names[n]? with
  | none => exact fun c hc => by cases hc
  | some name => exact h name (List.mem_of_getElem? hn)

theorem Gap.textual (h : Gap gap) : Textual gap := by
  intro c hc
  rcases h c hc with rfl | rfl <;> decide

theorem textual_dayText (sound : l.Sound) (w : Nat) (date : Date) :
    Textual (l.dayText w date) := by
  have weekday := plain_nameAt (by decide : ∀ name ∈ weekdayNames, Plain name.toList) w
  have month := plain_nameAt (by decide : ∀ name ∈ monthNames, Plain name.toList) (date.month - 1)
  simp [DateLayout.dayText, weekday.textual, month.textual, (plain_padded _ _).textual,
    sound.afterComma.textual, sound.afterDay.2.textual, sound.afterMonth.2.textual]

theorem plain_timeText (l : DateLayout) (time : Time) : Plain (l.timeText time) := by
  cases written : l.seconds <;> simp [DateLayout.timeText, written, plain_padded]

theorem textual_text (sound : l.Sound) (w : Nat) (date : Date) (time : Time) (hz : Plain zone) :
    Textual (l.text w date time zone) := by
  simp [DateLayout.text, textual_dayText sound, (plain_timeText l time).textual, hz.textual,
    sound.afterYear.2.textual, sound.afterTime.2.textual]

/-- What is read from the parts of a date. -/
theorem ofRfc2822_text (sound : l.Sound) {offset : Int} (hw : w < 7)
    (day : 1 ≤ date.day ∧ date.day ≤ 31) (month : 1 ≤ date.month ∧ date.month ≤ 12)
    (year : 0 ≤ date.year ∧ date.year ≤ 2147483647) (clock : time.OnClock)
    (whole : l.seconds = true ∨ time.second = 0) (hz : scanZone zone = .ok (offset, []))
    (start : trimStart zone = zone) :
    ofRfc2822 (String.ofList (l.text w date time zone)) = ofLocal date (some w) time offset := by
  have ends : isComments 0 [] = true := rfl
  have stop : (trimStart (l.afterTime ++ zone)).head? ≠ some ':' := by
    rw [trimStart_gap sound.afterTime.2, start]
    intro colon
    obtain ⟨rest, rfl⟩ := List.head?_eq_some_iff.mp colon
    cases hz
  rw [DateLayout.text, ofRfc2822_dayText sound hw (by omega) month year, if_pos day,
    trimStart_timeText, scanClock, scanTime_timeText clock whole _ stop]
  simp only [ok_bind]
  rw [scanBlanks_gap sound.afterTime, ok_bind, start, hz, ok_bind, if_pos ends]

variable {t : Instant} {offset : Int}

theorem civil_time (whole : t.nanos = 0) :
    t.civil.2 = ⟨(t.seconds % 86400).toNat / 3600, (t.seconds % 86400).toNat / 60 % 60,
      (t.seconds % 86400).toNat % 60, 0⟩ := by
  simp [civil, whole]

theorem civil_onClock (whole : t.nanos = 0) : t.civil.2.OnClock := by
  rw [civil_time whole]
  exact ⟨by dsimp only; omega, by dsimp only; omega, by dsimp only; omega, rfl⟩

/-- The second that a clock shows, its offset being taken into account. -/
def secondOf (date : Date) (time : Time) (offset : Int) : Int :=
  date.toDays * 86400 + time.hour * 3600 + time.minute * 60 + time.second - offset

theorem ofLocal_eq_ok {date : Date} {time : Time} (valid : date.Valid) (common : time.second ≠ 60)
    (ho : -86400 < offset ∧ offset < 86400)
    (inUse : firstSecond ≤ secondOf date time offset ∧ secondOf date time offset ≤ lastSecond) :
    ofLocal date (some (Date.weekday date.toDays)) time offset =
      .ok ⟨secondOf date time offset, time.nanos⟩ := by
  have second : (if time.second = 60 then 59 else time.second) = time.second := if_neg common
  simp only [ofLocal, valid, ho, Option.all_some, beq_self_eq_true, and_self, if_true, second]
  unfold secondOf at *
  rw [if_pos inUse, if_neg common]
  rfl

/-- What a clock that is ahead of universal time shows names the instant. -/
theorem ofLocal_civil (whole : t.nanos = 0) (inUse : t.Representable)
    (valid : (t.addSeconds offset).civil.1.Valid) (ho : -86400 < offset ∧ offset < 86400) :
    ofLocal (t.addSeconds offset).civil.1 (some (Date.weekday ((t.seconds + offset) / 86400)))
      (t.addSeconds offset).civil.2 offset = .ok t := by
  have days : (t.addSeconds offset).civil.1.toDays = (t.seconds + offset) / 86400 :=
    Date.toDays_ofDays _
  have time := civil_time (t := t.addSeconds offset) whole
  have second : secondOf (t.addSeconds offset).civil.1 (t.addSeconds offset).civil.2 offset =
      t.seconds := by
    rw [secondOf, days, time]
    simp only [addSeconds]
    omega
  have common : (t.addSeconds offset).civil.2.second ≠ 60 := by
    rw [time]
    simp only
    omega
  have nanos : (t.addSeconds offset).civil.2.nanos = t.nanos := by rw [time, whole]
  have named := ofLocal_eq_ok valid common ho (by rw [second]; exact ⟨inUse.1, inUse.2.1⟩)
  rw [days, second, nanos] at named
  exact named

theorem valid_civil (inUse : t.Representable) : t.civil.1.Valid := by
  obtain ⟨first, last, -⟩ := inUse
  unfold firstSecond at first
  unfold lastSecond at last
  exact Date.valid_ofDays (by omega) (by omega)

theorem addSeconds_zero (t : Instant) : t.addSeconds 0 = t := by
  rw [addSeconds, Int.add_zero]

/-- The text of an instant as that of its parts. -/
theorem toRfc2822_eq (t : Instant) : t.toRfc2822 = String.ofList (DateLayout.usual.text
    (Date.weekday (t.seconds / 86400)) t.civil.1 t.civil.2 ['G', 'M', 'T']) := by
  simp only [toRfc2822, DateLayout.text, DateLayout.dayText, DateLayout.timeText,
    List.append_assoc, List.cons_append]
  rfl

theorem textual_toRfc2822 (t : Instant) : Textual t.toRfc2822.toList := by
  rw [toRfc2822_eq, String.toList_ofList]
  exact textual_text DateLayout.sound_usual _ _ _ (by decide)

/-- An instant is read back from the date that is written for it. -/
theorem ofRfc2822_toRfc2822 (whole : t.nanos = 0) (inUse : t.Representable)
    (year : 0 ≤ t.civil.1.year) : ofRfc2822 t.toRfc2822 = .ok t := by
  have valid := valid_civil inUse
  have length := Date.monthLength_le t.civil.1.year t.civil.1.month
  have named := @ofLocal_civil t 0 whole inUse
  simp only [addSeconds_zero, Int.add_zero] at named
  have zone : scanZone ['G', 'M', 'T'] = .ok (0, []) := rfl
  obtain ⟨-, last, month, month', day, day'⟩ := id valid
  unfold Date.lastYear at last
  rw [toRfc2822_eq, ofRfc2822_text DateLayout.sound_usual (Date.weekday_lt _)
    ⟨day, by omega⟩ ⟨month, month'⟩ ⟨year, by omega⟩ (civil_onClock whole) (.inl rfl) zone rfl]
  exact named valid (by decide)

example : (⟨1571177421, 0⟩ : Instant).toRfc2822 = "Tue, 15 Oct 2019 22:10:21 GMT" := by
  decide +kernel

theorem year_civil_nonneg (h : 0 ≤ t.seconds) : 0 ≤ t.civil.1.year := by
  have first : Date.toDays ⟨1970, 1, 1⟩ = 0 := rfl
  have year : 1970 ≤ (Date.ofDays (t.seconds / 86400)).year :=
    Date.le_year_ofDays (by omega)
  exact Int.le_trans (by decide) year

end FileLease.Instant
