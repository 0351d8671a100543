import FileLease.Proofs.SnapshotTexts
import Mathlib.Data.Nat.Init

/-!
# Records that are kept

Whatever text a snapshot or a revision is read from, its date is one of the calendar in use. So what
was read from any text is written and read again without a change.
-/
namespace FileLease.Json
open Text

variable {s : List Char}

def Content.InUse : (content : Content) → content.Value → Prop
  | .text, _ => True
  | .instant, t => t.Representable
  | .optional content, v => ∀ a ∈ v, content.InUse a

def Values.InUse : (fields : List Field) → Values fields → Prop
  | [], _ => True
  | field :: fields, (v, others) => field.content.InUse v ∧ Values.InUse fields others

def Draft.InUse : (fields : List Field) → Draft fields → Prop
  | [], _ => True
  | field :: fields, (v, others) =>
    (∀ a ∈ v, field.content.InUse a) ∧ Draft.InUse fields others

theorem Draft.inUse_empty (fields : List Field) : Draft.InUse fields (.empty fields) := by
  induction fields with
  | nil => trivial
  | cons field fields ih => exact ⟨fun a h => (by cases h), ih⟩

theorem Content.inUse_absent {content : Content} {v : content.Value}
    (h : content.absent = some v) : content.InUse v := by
  cases content with
  | text => cases h
  | instant => cases h
  | optional content =>
    cases h
    exact fun a h => (by cases h)

/-- A value that is put in its place. -/
theorem Draft.inUse_put {fields : List Field} {draft : Draft fields} {name : String}
    {content : Content} {put : content.Value → Draft fields} (inUse : Draft.InUse fields draft)
    (free : draft.slot name = .free content put) {v : content.Value} (h : content.InUse v) :
    Draft.InUse fields (put v) := by
  induction fields with
  | nil => cases free
  | cons field fields ih =>
    obtain ⟨value, others⟩ := draft
    rw [slot] at free
    split at free
    next =>
      split at free
      next => cases free
      next =>
        cases free
        exact ⟨fun a ha => Option.some.inj ha ▸ h, inUse.2⟩
    next =>
      split at free
      next => cases free
      next => cases free
      next found =>
        cases free
        exact ⟨inUse.1, ih inUse.2 found⟩

theorem Draft.inUse_complete {fields : List Field} {draft : Draft fields} {values : Values fields}
    (inUse : Draft.InUse fields draft) (h : draft.complete = .ok values) :
    Values.InUse fields values := by
  induction fields with
  | nil => trivial
  | cons field fields ih =>
    obtain ⟨value, others⟩ := draft
    rw [complete] at h
    split at h
    next v found =>
      obtain ⟨vs, completed, rfl⟩ := map_eq_ok.mp h
      refine ⟨?_, ih inUse.2 completed⟩
      cases value with
      | none => exact Content.inUse_absent found
      | some a =>
        cases found
        exact inUse.1 v rfl
    next => cases h

theorem readInstant_inUse {t : Taken 1 s Instant} (h : readInstant s = .ok t) :
    t.value.Representable := by
  obtain ⟨text, -, h⟩ := bind_eq_ok.mp h
  split at h
  next date =>
    cases h
    exact Instant.representable_of_ofRfc3339 date
  next => cases h

theorem readContent_inUse {content : Content} {t : Taken 1 s content.Value}
    (h : readContent content s = .ok t) : content.InUse t.value := by
  induction content with
  | text => trivial
  | instant => exact readInstant_inUse h
  | optional content ih =>
    rw [readContent_optional] at h
    split at h
    next =>
      obtain ⟨letters, -, rfl⟩ := map_eq_ok.mp h
      exact fun a ha => (by cases ha)
    next =>
      obtain ⟨found, read, rfl⟩ := map_eq_ok.mp h
      exact fun a ha => Option.some.inj ha ▸ ih read

variable {fields : List Field}

/-- A list of values, field by field. -/
theorem readRow_inUse {expected : String} {known : Nat} {t : Taken 0 s (Values fields)}
    (h : readRow expected known fields s = .ok t) : Values.InUse fields t.value := by
  induction fields generalizing known s with
  | nil => trivial
  | cons field fields ih =>
    obtain ⟨next, -, h⟩ := bind_eq_ok.mp h
    split at h
    next =>
      obtain ⟨value, read, h⟩ := bind_eq_ok.mp h
      obtain ⟨others, read', h⟩ := bind_eq_ok.mp h
      cases h
      exact ⟨readContent_inUse read, ih read'⟩
    next => cases h

/-- The members of an object one by one, `draft` being the values so far. -/
theorem readNamed_inUse {draft : Draft fields} {first : Bool} {s : List Char}
    {t : Taken 0 s (Values fields)} (inUse : Draft.InUse fields draft)
    (h : readNamed fields draft first s = .ok t) : Values.InUse fields t.value := by
  rw [readNamed] at h
  obtain ⟨next, -, h⟩ := bind_eq_ok.mp h
  split at h
  next =>
    obtain ⟨name, -, h⟩ := bind_eq_ok.mp h
    have := next.shorter
    have := name.shorter
    dsimp only at h
    split at h
    next =>
      obtain ⟨colon, -, h⟩ := bind_eq_ok.mp h
      obtain ⟨skipped, -, h⟩ := bind_eq_ok.mp h
      obtain ⟨others, read, h⟩ := bind_eq_ok.mp h
      cases h
      have := colon.shorter
      have := skipped.shorter
      have all := readNamed_inUse inUse read
      exact all
    next => cases h
    next free =>
      obtain ⟨colon, -, h⟩ := bind_eq_ok.mp h
      obtain ⟨value, found, h⟩ := bind_eq_ok.mp h
      obtain ⟨others, read, h⟩ := bind_eq_ok.mp h
      cases h
      have := colon.shorter
      have := value.shorter
      have all := readNamed_inUse (Draft.inUse_put inUse free (readContent_inUse found)) read
      exact all
  next =>
    split at h
    next completed =>
      cases h
      exact Draft.inUse_complete inUse completed
    next => cases h
termination_by s.length

theorem readRecord_inUse {name : String} {t : Taken 1 s (Values fields)}
    (h : readRecord name fields s = .ok t) : Values.InUse fields t.value := by
  unfold readRecord at h
  dsimp only at h
  split at h
  next => cases h
  split at h
  next =>
    obtain ⟨row, read, rfl⟩ := map_eq_ok.mp h
    exact readRow_inUse read
  split at h
  next =>
    obtain ⟨named, read, rfl⟩ := map_eq_ok.mp h
    exact readNamed_inUse (Draft.inUse_empty fields) read
  next => cases h

theorem exists_of_readWhole {α : Type} {read : (s : List Char) → Except Halt (Taken 1 s α)}
    {text : String} {a : α} (h : readWhole read text = .ok a) :
    ∃ t, read text.toList = .ok t ∧ t.value = a := by
  obtain ⟨t, found, h⟩ := bind_eq_ok.mp (mapError_eq_ok.mp h)
  dsimp only at h
  split at h
  next =>
    cases h
    exact ⟨t, found, rfl⟩
  next => cases h

end FileLease.Json

namespace FileLease
open Json

theorem Snapshot.legible_of_ofText {text : String} {s : Snapshot}
    (h : Snapshot.ofText text = .ok s) : s.Legible := by
  obtain ⟨values, read, rfl⟩ := map_eq_ok.mp h
  obtain ⟨t, found, rfl⟩ := exists_of_readWhole read
  obtain ⟨-, -, -, inUse, -⟩ := readRecord_inUse found
  exact inUse

theorem Revision.representable_of_ofText {text : String} {r : Revision}
    (h : Revision.ofText text = .ok r) : r.lastModified.Representable := by
  obtain ⟨values, read, rfl⟩ := map_eq_ok.mp h
  obtain ⟨t, found, rfl⟩ := exists_of_readWhole read
  obtain ⟨-, inUse, -⟩ := readRecord_inUse found
  exact inUse

/-- Snapshots and revisions are read back from their texts. What is read from any other text is
written in a text of which the same holds, so it does not change any more. -/
theorem records_read_back :
    (∀ s : Snapshot, s.Legible → Snapshot.ofText s.toText = .ok s) ∧
    (∀ r : Revision, r.lastModified.Representable → Revision.ofText r.toText = .ok r) ∧
    (∀ (text : String) (s : Snapshot), Snapshot.ofText text = .ok s →
      Snapshot.ofText s.toText = .ok s ∧ (Snapshot.ofText s.toText).map (·.toText) = .ok s.toText) ∧
    ∀ (text : String) (r : Revision), Revision.ofText text = .ok r →
      Revision.ofText r.toText = .ok r ∧
        (Revision.ofText r.toText).map (·.toText) = .ok r.toText := by
  have snapshot (s : Snapshot) (legible : s.Legible) := Snapshot.ofText_toText legible
  have revision (r : Revision) (inUse : r.lastModified.Representable) :=
    Revision.ofText_toText inUse
  refine ⟨snapshot, revision, fun text s h => ?_, fun text r h => ?_⟩
  · have again := snapshot s (Snapshot.legible_of_ofText h)
    exact ⟨again, by rw [again]; rfl⟩
  · have again := revision r (Revision.representable_of_ofText h)
    exact ⟨again, by rw [again]; rfl⟩

/-- A leap second at the end of the last year of four digits. -/
def leapSnapshot : Snapshot :=
  ⟨"😀", "\x01", none, some ⟨253402300799, 1500000000⟩⟩

/-- The same by clocks that show the year after it, among other members and in another order. -/
def leapText : String :=
  "\x7b\"last_modified\": \"+10000-01-01T05:29:60.5+05:30\", \"kept\": [null, 1],\n" ++
    " \"path\": \"\\ud83d\\ude00\", \"lease_id\": \"\\u0001\"\x7d\n"

theorem records_read_back_of_leap_second :
    Snapshot.ofText leapText = .ok leapSnapshot ∧
    leapSnapshot.toText = "\x7b\"path\":\"😀\",\"lease_id\":\"\\u0001\",\"etag\":null," ++
      "\"last_modified\":\"9999-12-31T23:59:60.500Z\"\x7d" ∧
    Snapshot.ofText leapSnapshot.toText = .ok leapSnapshot := by
  have read : Snapshot.ofText leapText = .ok leapSnapshot := ok_of_toOption (by decide +kernel)
  exact ⟨read, by decide +kernel, (records_read_back.2.2.1 _ _ read).1⟩

end FileLease
