import FileLease.Proofs.InstantTexts
import FileLease.Proofs.JsonTexts
import FileLease.Snapshot

/-!
# Snapshots as texts

The fields of a record are read from the members of an object one by one, so snapshots and revisions
are read back from their texts, on one line or on several.
-/
namespace FileLease.Json
open Text

variable {s tail blanks : List Char} {l : Layout}

theorem writeString_append (v : String) (tail : List Char) :
    blanks ++ writeString v ++ tail = blanks ++ '\x22' :: (v.toList.flatMap escaped ++
      '\x22' :: tail) := by
  simp [writeString]

theorem skipBlanks_string (blank : Blank blanks) (v : String) (tail : List Char) :
    skipBlanks (blanks ++ writeString v ++ tail) =
      '\x22' :: (v.toList.flatMap escaped ++ '\x22' :: tail) := by
  rw [writeString_append, skipBlanks_append blank (by decide)]

/-- A string where one is wanted. -/
theorem readWanted_string (expected : String) (blank : Blank blanks) (v : String)
    (tail : List Char) : Finds (readWanted expected (blanks ++ writeString v ++ tail)) v tail := by
  obtain ⟨h, read⟩ := readString_written v tail
  have front := skipBlanks_string blank v tail
  unfold readWanted
  dsimp only
  split
  next heq _ => cases front.symm.trans heq
  next heq _ =>
    cases front.symm.trans heq
    rw [if_pos rfl, read]
    exact ⟨_, rfl⟩

/-- A date where one is wanted. -/
theorem readInstant_string (blank : Blank blanks) {t : Instant} (inUse : t.Representable)
    (tail : List Char) :
    Finds (readInstant (blanks ++ writeString t.toRfc3339 ++ tail)) t tail := by
  refine (readWanted_string _ blank t.toRfc3339 tail).bind fun h => ?_
  simp only [Instant.ofRfc3339_toRfc3339 inUse]
  exact ⟨_, rfl⟩

theorem readContent_optional (content : Content) (s : List Char) :
    readContent (.optional content) s = match skipBlanks s, skipBlanks_length s with
      | 'n' :: rest, h =>
        (readLetters ['u', 'l', 'l'] rest).map fun t => (t.map fun _ => none).behind.on h
      | _, _ => (readContent content s).map fun t => t.map some := rfl

/-- What may be missing is read as it is where it is wanted, if a string stands there. -/
theorem readContent_some {content : Content} {v : content.Value}
    (front : skipBlanks s = '\x22' :: blanks) (read : Finds (readContent content s) v tail) :
    Finds (readContent (.optional content) s) (some v) tail := by
  obtain ⟨_, read⟩ := read
  rw [readContent_optional]
  generalize skipBlanks_length s = shorter
  revert shorter
  rw [front]
  intro shorter
  rw [read]
  exact ⟨_, rfl⟩

theorem readContent_null (blank : Blank blanks) (content : Content) (tail : List Char) :
    Finds (readContent (.optional content) (blanks ++ write .null ++ tail)) none tail := by
  have front := skipBlanks_append blank (by decide : isBlank 'n' = false)
    ('u' :: 'l' :: 'l' :: tail)
  have text : blanks ++ write .null ++ tail = blanks ++ 'n' :: 'u' :: 'l' :: 'l' :: tail := by
    simp [write]
  rw [text, readContent_optional]
  generalize skipBlanks_length (blanks ++ 'n' :: 'u' :: 'l' :: 'l' :: tail) = shorter
  revert shorter
  rw [front]
  intro shorter
  exact ⟨_, rfl⟩

def Content.toJson : (content : Content) → content.Value → Json
  | .text, v => .string v
  | .instant, t => t.toJson
  | .optional content, v => .ofOption content.toJson v

def Content.Legible : (content : Content) → content.Value → Prop
  | .text, _ => True
  | .instant, t => t.Representable
  | .optional .text, _ => True
  | .optional .instant, v => ∀ t ∈ v, t.Representable
  | .optional (.optional _), _ => False

/-- The value of a field is read back. -/
theorem readContent_toJson (blank : Blank blanks) {content : Content} {v : content.Value}
    (legible : content.Legible v) (tail : List Char) :
    Finds (readContent content (blanks ++ write (content.toJson v) ++ tail)) v tail := by
  match content, v with
  | .text, v => exact readWanted_string _ blank v tail
  | .instant, t => exact readInstant_string blank legible tail
  | .optional content, none => exact readContent_null blank content tail
  | .optional .text, some v =>
    exact readContent_some (skipBlanks_string blank v tail) (readWanted_string _ blank v tail)
  | .optional .instant, some t =>
    exact readContent_some (skipBlanks_string blank t.toRfc3339 tail)
      (readInstant_string blank (legible t rfl) tail)

variable {fields : List Field} {draft : Draft fields} {values : Values fields}

/-- The value of a field is read, and then the other members. -/
theorem readNamed_item (sound : l.Sound) (first : Bool) {name : String} (content : Content)
    {put : content.Value → Draft fields} (free : draft.slot name = .free content put)
    {v : content.Value} (legible : content.Legible v) {rest : List Char}
    (others : Finds (readNamed fields (put v) false rest) values tail) :
    Finds (readNamed fields draft first (l.item first (name, write (content.toJson v)) ++ rest))
      values tail := by
  rw [readNamed]
  refine (sound.seekMember first _ rest).bind fun h => ?_
  simp only [if_true]
  refine (readString_written name _).bind fun h => ?_
  simp only [free]
  refine (readColon_eq (skipBlanks_cons (by decide) _)).bind fun h => ?_
  refine (readContent_toJson sound.space legible rest).bind fun h => ?_
  refine others.bind fun h => ?_
  exact ⟨_, rfl⟩

/-- At the end of the object all fields have their values. -/
theorem readNamed_end (sound : l.Sound) (complete : draft.complete = .ok values)
    (tail : List Char) : Finds (readNamed fields draft false (l.rest [] tail)) values tail := by
  rw [readNamed]
  refine (sound.seekMember_end tail).bind fun h => ?_
  simp only [Bool.false_eq_true, if_false, complete]
  exact ⟨_, rfl⟩

theorem readRecord_object (name : String) {rest : List Char}
    (named : Finds (readNamed fields (.empty fields) true rest) values tail) :
    Finds (readRecord name fields ('\x7b' :: rest)) values tail := by
  obtain ⟨h, named⟩ := named
  have front := skipBlanks_cons (c := '\x7b') (by decide) rest
  unfold readRecord
  dsimp only
  split
  next heq _ => cases front.symm.trans heq
  next heq _ =>
    cases front.symm.trans heq
    rw [if_neg (by decide), if_pos rfl, named]
    exact ⟨_, rfl⟩

end FileLease.Json

namespace FileLease.Snapshot
open Text Json

variable {s : Snapshot} {l : Layout} {tail : List Char}

/-- A snapshot whose time is one of the calendar in use. -/
def Legible (s : Snapshot) : Prop :=
  ∀ t ∈ s.lastModified, t.Representable

def members (s : Snapshot) : List (String × Json) :=
  [("etag", .ofOption .string s.etag), ("last_modified", .ofOption Instant.toJson s.lastModified),
    ("lease_id", .string s.leaseId), ("path", .string s.path)]

theorem sortMembers_toJson (s : Snapshot) :
    sortMembers [("path", .string s.path), ("lease_id", .string s.leaseId),
      ("etag", .ofOption .string s.etag),
      ("last_modified", .ofOption Instant.toJson s.lastModified)] = s.members := by
  simp only [sortMembers, sortMembers.insert, members, List.foldl_cons, List.foldl_nil,
    List.filter_cons, List.filter_nil, String.reduceLT, decide_true, decide_false, if_true,
    Bool.false_eq_true, if_false, List.nil_append, List.cons_append]

theorem simple_members (s : Snapshot) : ∀ m ∈ s.members, Simple m.2 := by
  have optional {α : Type} {f : α → Json} (simple : ∀ a, Simple (f a)) (v : Option α) :
      Simple (.ofOption f v) := by
    cases v with
    | none => exact .null
    | some a => exact simple a
  intro m mem
  simp only [members, List.mem_cons, List.not_mem_nil, or_false] at mem
  obtain rfl | rfl | rfl | rfl := mem
  · exact optional .string s.etag
  · exact optional (fun t => .string t.toRfc3339) s.lastModified
  · exact .string _
  · exact .string _

theorem readRecord_members (sound : l.Sound) (legible : s.Legible) (tail : List Char) :
    Finds (readRecord "LeaseSnapshot" fields
      (l.object ("etag", write (.ofOption .string s.etag))
        [("last_modified", write (.ofOption Instant.toJson s.lastModified)),
          ("lease_id", write (.string s.leaseId)), ("path", write (.string s.path))] tail))
      (s.path, s.leaseId, s.etag, s.lastModified, ()) tail := by
  refine readRecord_object _ ?_
  refine readNamed_item sound true (.optional .text) rfl trivial ?_
  rw [Layout.rest_cons]
  refine readNamed_item sound false (.optional .instant) rfl legible ?_
  rw [Layout.rest_cons]
  refine readNamed_item sound false .text rfl trivial ?_
  rw [Layout.rest_cons]
  refine readNamed_item sound false .text rfl trivial ?_
  exact readNamed_end sound rfl tail

/-- A snapshot is read back from an object over several lines. -/
theorem ofText_pretty (legible : s.Legible) :
    ofText ((Json.object s.members).pretty ++ "\n") = .ok s := by
  rw [members, pretty_object (simple_members s), ofText]
  rw [readWhole_eq (a := (s.path, s.leaseId, s.etag, s.lastModified, ())) ?_
    (by decide : Blank ['\n'])]
  · rfl
  · rw [String.toList_ofList]
    exact readRecord_members Layout.sound_lines legible ['\n']

/-- A snapshot is read back from its text. -/
theorem ofText_toText (legible : s.Legible) : ofText s.toText = .ok s := by
  have none : Blank [] := rfl
  rw [toText, toJson, compact_object, ofText]
  rw [readWhole_eq (a := (s.path, s.leaseId, s.etag, s.lastModified, ())) ?_ none]
  · rfl
  · rw [String.toList_ofList]
    refine readRecord_object _ ?_
    refine readNamed_item Layout.sound_line true .text rfl trivial ?_
    rw [texts, List.map_cons, Layout.rest_cons]
    refine readNamed_item Layout.sound_line false .text rfl trivial ?_
    rw [List.map_cons, Layout.rest_cons]
    refine readNamed_item Layout.sound_line false (.optional .text) rfl trivial ?_
    rw [List.map_cons, Layout.rest_cons]
    refine readNamed_item Layout.sound_line false (.optional .instant) rfl legible ?_
    exact readNamed_end Layout.sound_line rfl []

end FileLease.Snapshot

namespace FileLease.Revision
open Text Json

/-- A revision is read back from its text. -/
theorem ofText_toText {r : Revision} (inUse : r.lastModified.Representable) :
    ofText r.toText = .ok r := by
  have none : Blank [] := rfl
  rw [toText, toJson, compact_object, ofText]
  rw [readWhole_eq (a := (r.etag, r.lastModified, ())) ?_ none]
  · rfl
  · rw [String.toList_ofList]
    refine readRecord_object _ ?_
    refine readNamed_item Layout.sound_line true .text rfl trivial ?_
    rw [texts, List.map_cons, Layout.rest_cons]
    refine readNamed_item Layout.sound_line false .instant rfl inUse ?_
    exact readNamed_end Layout.sound_line rfl []

end FileLease.Revision
