import FileLease.Proofs.InstantTexts
import FileLease.Proofs.WireReplies

/-!
# Lease headers with dates of every zone

An instant is read back from what the clocks of any zone show. The headers of a granted call are
read for what they say, and refused when their date is of no day, or of one with another name.
-/
namespace FileLease.Instant
open Text

/-- A zone as dates have it: universal time by its name, or the hours and minutes that its clocks
are ahead or behind. -/
inductive Zone
  | gmt
  | ahead (hours minutes : Nat)
  | behind (hours minutes : Nat)
  deriving DecidableEq, Repr

namespace Zone

def text : Zone → List Char
  | gmt => ['G', 'M', 'T']
  | ahead hours minutes => '+' :: (padded 2 hours ++ padded 2 minutes)
  | behind hours minutes => '-' :: (padded 2 hours ++ padded 2 minutes)

def offset : Zone → Int
  | gmt => 0
  | ahead hours minutes => hours * 3600 + minutes * 60
  | behind hours minutes => -(hours * 3600 + minutes * 60)

def Sound : Zone → Prop
  | gmt => True
  | ahead hours minutes => hours < 24 ∧ minutes < 60
  | behind hours minutes => hours < 24 ∧ minutes < 60

instance : (z : Zone) → Decidable z.Sound
  | gmt => inferInstanceAs (Decidable True)
  | ahead _ _ => inferInstanceAs (Decidable (_ ∧ _))
  | behind _ _ => inferInstanceAs (Decidable (_ ∧ _))

/-- The instant at which clocks of universal time show what those of the zone show at `t`. -/
def clock (z : Zone) (t : Instant) : Instant :=
  t.addSeconds z.offset

end Zone

def zonedText (l : DateLayout) (z : Zone) (t : Instant) : String :=
  String.ofList (l.text (Date.weekday ((z.clock t).seconds / 86400)) (z.clock t).civil.1
    (z.clock t).civil.2 z.text)

variable {l : DateLayout} {z : Zone} {t : Instant}

theorem scanHoursMinutes_padded {hours minutes : Nat} (hh : hours < 100) (hm : minutes < 60) :
    scanHoursMinutes id (padded 2 hours ++ padded 2 minutes) =
      .ok (hours * 3600 + minutes * 60, []) := by
  have last := scanNumber_two (show minutes < 100 by omega) (Nat.le_refl 2) []
  rw [List.append_nil] at last
  rw [scanHoursMinutes, scanNumber_two hh (Nat.le_refl 2)]
  simp only [ok_bind, id, last, if_pos hm, pure_eq_ok]

theorem scanZone_text (sound : z.Sound) : scanZone z.text = .ok (z.offset, []) := by
  cases z with
  | gmt => rfl
  | ahead hours minutes =>
    have read := scanHoursMinutes_padded (show hours < 100 by have := sound.1; omega) sound.2
    have sign : ('+' :: (padded 2 hours ++ padded 2 minutes)).takeWhile Char.isAlpha = [] := rfl
    simp only [Zone.text, scanZone, sign, List.isEmpty_nil, if_true, read]
    rfl
  | behind hours minutes =>
    have read := scanHoursMinutes_padded (show hours < 100 by have := sound.1; omega) sound.2
    have sign : ('-' :: (padded 2 hours ++ padded 2 minutes)).takeWhile Char.isAlpha = [] := rfl
    simp only [Zone.text, scanZone, sign, List.isEmpty_nil, if_true, read]
    rfl

theorem trimStart_zone (z : Zone) : trimStart z.text = z.text := by
  cases z <;> exact trimStart_cons (by decide) _

theorem plain_zone (z : Zone) : Plain z.text := by
  cases z <;> simp [Zone.text, plain_padded]

theorem offset_bounds (sound : z.Sound) : -86400 < z.offset ∧ z.offset < 86400 := by
  cases z with
  | gmt => decide
  | ahead hours minutes =>
    obtain ⟨hh, hm⟩ := sound
    simp only [Zone.offset]
    omega
  | behind hours minutes =>
    obtain ⟨hh, hm⟩ := sound
    simp only [Zone.offset]
    omega

/-- The calendar in use goes a day beyond the years of four digits, and further. -/
theorem representable_of_year (offset : Int) (whole : t.nanos = 0)
    (year : 0 ≤ (t.addSeconds offset).civil.1.year ∧ (t.addSeconds offset).civil.1.year ≤ 9999)
    (near : -86400 < offset ∧ offset < 86400) : t.Representable := by
  have first : ¬ (t.seconds + offset) / 86400 ≤ Date.toDays ⟨-1, 12, 31⟩ := fun early =>
    absurd (Int.le_trans year.1 (Date.year_ofDays_le early)) (by decide)
  have last : ¬ Date.toDays ⟨10000, 1, 1⟩ ≤ (t.seconds + offset) / 86400 := fun late =>
    absurd (Int.le_trans (Date.le_year_ofDays late) year.2) (by decide)
  have day : Date.toDays ⟨-1, 12, 31⟩ = -719529 := rfl
  have day' : Date.toDays ⟨10000, 1, 1⟩ = 2932897 := rfl
  have firstUsed : firstSecond = -8334601228800 := rfl
  have lastUsed : lastSecond = 8210266876799 := rfl
  rw [day] at first
  rw [day'] at last
  refine ⟨?_, ?_, ?_, ?_⟩ <;> omega

/-- An instant is read back from what the clocks of a zone show. -/
theorem ofRfc2822_zonedText (sound : l.Sound) (zoned : z.Sound) (whole : t.nanos = 0)
    (year : 1 ≤ (z.clock t).civil.1.year ∧ (z.clock t).civil.1.year ≤ 9999)
    (seconds : l.seconds = true ∨ (z.clock t).civil.2.second = 0) :
    ofRfc2822 (zonedText l z t) = .ok t := by
  have near := offset_bounds zoned
  have years : 0 ≤ (z.clock t).civil.1.year ∧ (z.clock t).civil.1.year ≤ 9999 := by omega
  have there : (z.clock t).Representable :=
    representable_of_year 0 whole (by rwa [addSeconds_zero]) (by decide)
  have valid := valid_civil there
  have length := Date.monthLength_le (z.clock t).civil.1.year (z.clock t).civil.1.month
  have here : t.Representable := representable_of_year z.offset whole years near
  have named := ofLocal_civil whole here valid near
  obtain ⟨-, -, month, month', day, day'⟩ := id valid
  have clock : (z.clock t).civil.2.OnClock := civil_onClock whole
  rw [zonedText, ofRfc2822_text sound (Date.weekday_lt _) ⟨day, by omega⟩ ⟨month, month'⟩
    ⟨by omega, by omega⟩ clock seconds (scanZone_text zoned) (trimStart_zone z)]
  exact named

theorem textual_zonedText (sound : l.Sound) (z : Zone) (t : Instant) :
    Textual (zonedText l z t).toList := by
  rw [zonedText, String.toList_ofList]
  exact textual_text sound _ _ _ (plain_zone z)

theorem scanClock_eq_ok {w : Nat} {date : Date} {s : List Char}
    (h : scanClock w date s = .ok t) : date.Valid ∧ w = Date.weekday date.toDays := by
  obtain ⟨⟨time, afterTime⟩, -, h⟩ := bind_eq_ok.mp h
  obtain ⟨afterBlanks, -, h⟩ := bind_eq_ok.mp h
  obtain ⟨⟨offset, afterZone⟩, -, h⟩ := bind_eq_ok.mp h
  dsimp only at h
  split at h
  next =>
    obtain ⟨valid, named, -⟩ := ofLocal_eq_ok_iff.mp h
    exact ⟨valid, by simpa using named⟩
  next => cases h

/-- No instant is read, whatever the time, for a day that its month has not or that has another
name. -/
theorem ofRfc2822_ne_ok (sound : l.Sound) {w : Nat} {date : Date} (hw : w < 7)
    (day : date.day < 100) (month : 1 ≤ date.month ∧ date.month ≤ 12)
    (year : 0 ≤ date.year ∧ date.year ≤ 9999)
    (wrong : ¬ (1 ≤ date.day ∧ date.day ≤ Date.monthLength date.year date.month) ∨
      w ≠ Date.weekday date.toDays) (rest : List Char) :
    ofRfc2822 (String.ofList (l.dayText w date ++ (l.afterYear ++ rest))) ≠ .ok t := by
  rw [ofRfc2822_dayText sound hw day month ⟨year.1, by omega⟩]
  intro h
  split at h
  next =>
    obtain ⟨⟨-, -, -, -, exist⟩, named⟩ := scanClock_eq_ok h
    exact wrong.elim (fun none => none exist) (fun other => other named)
  next => cases h

end FileLease.Instant

namespace FileLease.Http
open Text Instant

/-- Headers with a plain tag and a date are read for what they say: the tag, the id unless it is
empty, and the instant that the clocks of the zone show. A date is refused, whatever its time, when
its month has no such day or when the day has another name. -/
theorem leaseReply_reads_dates {headers : List Header} {etag : String} {l : DateLayout}
    (plain : Plain etag.toList) (told : value? headers "ETag" = some (bytesOf etag))
    (sound : l.Sound) :
    (∀ (z : Zone) (t : Instant) (id : Option String), z.Sound → t.nanos = 0 →
      1 ≤ (z.clock t).civil.1.year ∧ (z.clock t).civil.1.year ≤ 9999 →
      l.seconds = true ∨ (z.clock t).civil.2.second = 0 →
      value? headers "Last-Modified" = some (bytesOf (zonedText l z t)) →
      (∀ text ∈ id, Plain text.toList) → value? headers "x-ms-lease-id" = id.map bytesOf →
      leaseReply headers = .ok ⟨id.filter (! ·.isEmpty), etag, t⟩) ∧
    ∀ (w : Nat) (date : Date) (rest : List Char), w < 7 → date.day < 100 →
      1 ≤ date.month ∧ date.month ≤ 12 → 0 ≤ date.year ∧ date.year ≤ 9999 → Textual rest →
      ¬ (1 ≤ date.day ∧ date.day ≤ Date.monthLength date.year date.month) ∨
        w ≠ Date.weekday date.toDays →
      value? headers "Last-Modified" =
        some (bytesOf (String.ofList (l.dayText w date ++ (l.afterYear ++ rest)))) →
      leaseReply headers = .error (.invalidHeader "Last-Modified"
        (String.ofList (l.dayText w date ++ (l.afterYear ++ rest)))) := by
  constructor
  · intro z t id zoned whole year seconds dated ids named
    have back := ofRfc2822_zonedText sound zoned whole year seconds
    have leaseId := headerText?_eq (fun text h => (ids text h).textual) named
    rw [leaseReply_eq plain (textual_zonedText sound z t) told dated, back]
    simp only [leaseId]
  · intro w date rest hw day month year ends wrong dated
    have textual : Textual
        (String.ofList (l.dayText w date ++ (l.afterYear ++ rest))).toList := by
      simp [textual_dayText sound, sound.afterYear.2.textual, ends]
    rw [leaseReply_eq plain textual told dated]
    cases read : ofRfc2822 (String.ofList (l.dayText w date ++ (l.afterYear ++ rest))) with
    | ok t => exact absurd read (ofRfc2822_ne_ok sound hw day month year wrong rest)
    | error fault => rfl

def terse : DateLayout :=
  ⟨[], [' '], [' '], [' '], [' '], 1, false⟩

/-- A leap day by clocks that are ahead, and a day that February has in no year. -/
theorem leaseReply_reads_leap_day :
    leaseReply [.ofText "X-MS-LEASE-ID" "", .ofText "Date" "Fri, 01 Mar 2024 00:00:00 GMT",
        .ofText "last-modified" "Fri,1 Mar 2024 00:30 +0100", .ofText "etag" "0x8D7"] =
      .ok ⟨none, "0x8D7", ⟨1709249400, 0⟩⟩ ∧
    leaseReply [.ofText "ETag" "0x8D7", .ofText "Last-Modified" "Fri,30 Feb 2024 00:30 +0100"] =
      .error (.invalidHeader "Last-Modified" "Fri,30 Feb 2024 00:30 +0100") := by
  have sound : terse.Sound := by
    constructor <;> decide
  have plain : Plain "0x8D7".toList := by decide
  constructor
  · have text : zonedText terse (.ahead 1 0) ⟨1709249400, 0⟩ = "Fri,1 Mar 2024 00:30 +0100" := by
      decide +kernel
    exact (leaseReply_reads_dates plain (by simp +decide [value?_cons]) sound).1 (.ahead 1 0)
      ⟨1709249400, 0⟩ (some "") (by decide) rfl (by decide +kernel) (.inr (by decide +kernel))
      (by rw [text]; simp +decide [value?_cons]) (by decide) (by simp +decide [value?_cons])
  · have text : String.ofList (terse.dayText 4 ⟨2024, 2, 30⟩ ++ (terse.afterYear ++
        "00:30 +0100".toList)) = "Fri,30 Feb 2024 00:30 +0100" := by decide +kernel
    rw [← text]
    exact (leaseReply_reads_dates plain (by simp +decide [value?_cons]) sound).2 4 ⟨2024, 2, 30⟩ _
      (by decide) (by decide) (by decide) (by decide) (by decide) (.inl (by decide))
      (by simp +decide [value?_cons])

end FileLease.Http
