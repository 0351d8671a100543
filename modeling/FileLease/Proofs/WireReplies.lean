import FileLease.Http.Client
import FileLease.Proofs.ElementTexts
import FileLease.Proofs.HttpDates

/-!
# Answers as they are sent

How a reply tells the answer to a call, and that the client reads from such a reply the answer that
it tells.
-/
namespace FileLease.Http
open Text

def value? (headers : List Header) (name : String) : Option (List UInt8) :=
  (headers.find? (·.named name)).map (·.value)

/-- A status of success, and the tag, the date and, if the service names one, the id in headers. -/
structure Reply.Grants (r : Reply) (answer : LeaseReply) : Prop where
  status : r.isSuccess = true
  etag : value? r.headers "ETag" = some (bytesOf answer.etag)
  lastModified : value? r.headers "Last-Modified" = some (bytesOf answer.lastModified.toRfc2822)
  leaseId : value? r.headers "x-ms-lease-id" = answer.leaseId.map bytesOf

structure Reply.Breaks (r : Reply) (seconds : UInt32) : Prop where
  status : r.isSuccess = true
  time : value? r.headers "x-ms-lease-time" = some (bytesOf (String.ofList (decimal seconds.toNat)))

def messageOpen : List Char := ['<', 'M', 'e', 's', 's', 'a', 'g', 'e', '>']
def messageClose : List Char := ['<', '/', 'M', 'e', 's', 's', 'a', 'g', 'e', '>']

/-- A status, a code in a header, and a message in the first element of its name in a body, which is
text in UTF-8. -/
structure Reply.Refuses (r : Reply) (status : Nat) (code message : String) : Prop where
  status : r.status = status
  code : value? r.headers "x-ms-error-code" = some (bytesOf code)
  whole : r.whole = true
  charset : ∀ label, (headerText? r.headers "Content-Type").bind charsetLabel? = some label →
    charsetOfLabel label = .utf8
  body : ∃ before after : List Char,
    r.body = bytesOf (String.ofList (before ++ (messageOpen ++ (message.toList ++
      (messageClose ++ after))))) ∧ ¬ messageOpen <:+: before

/-- Whether a reply tells the answer to a call; failures that are no refusals are not told. -/
def Reply.Tells (r : Reply) : (c : Call) → Except TransportError c.Answer → Prop
  | .acquire .., .ok answer => r.Grants answer
  | .release .., .ok answer => r.Grants answer
  | .change .., .ok answer => r.Grants answer
  | .break .., .ok seconds => r.Breaks seconds
  | _, .error (.refused status (some code) message) => r.Refuses status code message
  | _, .error _ => False

def granting (answer : LeaseReply) : Reply :=
  ⟨200, .ofText "ETag" answer.etag :: .ofText "Last-Modified" answer.lastModified.toRfc2822 ::
    (answer.leaseId.map (Header.ofText "x-ms-lease-id")).toList, [], true⟩

def breaking (seconds : UInt32) : Reply :=
  ⟨202, [.ofText "x-ms-lease-time" (String.ofList (decimal seconds.toNat))], [], true⟩

def refusing (status : Nat) (code message : String) : Reply :=
  ⟨status, [.ofText "x-ms-error-code" code],
    bytesOf (String.ofList (messageOpen ++ (message.toList ++ messageClose))), true⟩

def sameName (name other : String) : Bool :=
  name.toList.map Char.toLower == other.toList.map Char.toLower

@[simp] theorem named_ofText (name text other : String) :
    (Header.ofText name text).named other = sameName name other := rfl

@[simp] theorem value_ofText (name text : String) :
    (Header.ofText name text).value = bytesOf text := rfl

theorem value?_cons (header : Header) (headers : List Header) (name : String) :
    value? (header :: headers) name =
      if header.named name then some header.value else value? headers name := by
  rw [value?, List.find?_cons]
  cases header.named name <;> rfl

theorem granting_grants (answer : LeaseReply) : (granting answer).Grants answer := by
  refine ⟨rfl, ?_, ?_, ?_⟩
  · simp +decide [value?_cons, granting]
  · simp +decide [value?_cons, granting]
  · cases hl : answer.leaseId with
    | none => simp +decide [value?, granting, hl]
    | some id => simp +decide [value?_cons, granting, hl]

theorem breaking_breaks (seconds : UInt32) : (breaking seconds).Breaks seconds := by
  refine ⟨rfl, ?_⟩
  simp +decide [value?_cons, breaking]

theorem refusing_refuses (status : Nat) (code message : String) :
    (refusing status code message).Refuses status code message := by
  refine ⟨rfl, ?_, rfl, ?_, [], [], by simp [refusing], by decide⟩
  · simp +decide [value?_cons, refusing]
  · simp +decide [headerText?, refusing]

theorem isTextByte_byteOf {c : Char} (h : 32 ≤ c.toNat ∧ c.toNat < 127 ∨ c = '\t') :
    isTextByte (byteOf c) = true := by
  rcases h with visible | rfl
  · have hb := toNat_byteOf (c := c) (by omega)
    simp only [isTextByte, Bool.or_eq_true, Bool.and_eq_true, decide_eq_true_eq,
      UInt8.le_iff_toNat_le, UInt8.lt_iff_toNat_lt, hb]
    exact .inl visible
  · rfl

theorem isTextByte_iff {b : UInt8} :
    isTextByte b = true ↔ 32 ≤ b.toNat ∧ b.toNat < 127 ∨ b.toNat = 9 := by
  simp only [isTextByte, Bool.or_eq_true, Bool.and_eq_true, decide_eq_true_eq, beq_iff_eq,
    UInt8.le_iff_toNat_le, UInt8.lt_iff_toNat_lt, ← UInt8.toNat_inj]
  rfl

/-- The bytes of header texts are those of characters. -/
theorem exists_textual {value : List UInt8} (h : ∀ b ∈ value, isTextByte b = true) :
    Textual (value.map (Char.ofNat ·.toNat)) ∧
      value = (value.map (Char.ofNat ·.toNat)).map byteOf := by
  have all : ∀ n < 256, 32 ≤ n ∧ n < 127 ∨ n = 9 →
      (32 ≤ (Char.ofNat n).toNat ∧ (Char.ofNat n).toNat < 127 ∨ Char.ofNat n = '\t') ∧
        byteOf (Char.ofNat n) = UInt8.ofNat n := by decide +kernel
  have own (b : UInt8) (hb : b ∈ value) := all b.toNat b.toNat_lt (isTextByte_iff.mp (h b hb))
  constructor
  · intro c hc
    obtain ⟨b, hb, rfl⟩ := List.mem_map.mp hc
    exact (own b hb).1
  · rw [List.map_map]
    refine ((List.map_congr_left fun b hb => ?_).trans (List.map_id _)).symm
    exact (own b hb).2.trans UInt8.ofNat_toNat

theorem text?_textual {header : Header} {s : String} (hs : Textual s.toList)
    (hv : header.value = bytesOf s) : header.text? = some s := by
  have all : (bytesOf s).all isTextByte = true := by
    rw [bytesOf_textual hs, List.all_eq_true]
    intro b hb
    obtain ⟨c, hc, rfl⟩ := List.mem_map.mp hb
    exact isTextByte_byteOf (hs c hc)
  have chars : (bytesOf s).map (Char.ofNat ·.toNat) = s.toList := by
    rw [bytesOf_textual hs, List.map_map]
    refine (List.map_congr_left fun c hc => ?_).trans (List.map_id _)
    simp only [Function.comp, toNat_byteOf (hs.lt hc), Char.ofNat_toNat, id]
  rw [Header.text?, hv, if_pos all, chars, String.ofList_toList]

variable {headers : List Header} {r : Reply} {name : String}

theorem headerText?_some {s : String} (hs : Textual s.toList)
    (hv : value? headers name = some (bytesOf s)) : headerText? headers name = some s := by
  obtain ⟨header, found, value⟩ := Option.map_eq_some_iff.mp hv
  rw [headerText?, found]
  exact text?_textual hs value

/-- What is read from a header is a text that headers are made of. -/
theorem textual_of_headerText? {s : String} (hs : headerText? headers name = some s) :
    Textual s.toList := by
  obtain ⟨header, -, read⟩ := Option.bind_eq_some_iff.mp hs
  unfold Header.text? at read
  split at read
  · rename_i texts
    cases read
    rw [String.toList_ofList]
    exact (exists_textual (List.all_eq_true.mp texts)).1
  · cases read

theorem headerText?_none (hv : value? headers name = none) : headerText? headers name = none := by
  rw [headerText?, Option.map_eq_none_iff.mp hv]
  rfl

theorem headerText?_eq {text : Option String} (textual : ∀ s ∈ text, Textual s.toList)
    (hv : value? headers name = text.map bytesOf) : headerText? headers name = text := by
  cases text with
  | none => exact headerText?_none hv
  | some s => exact headerText?_some (textual s rfl) hv

/-- What the headers say, if they hold a tag and a date; the date alone may be wrong. -/
theorem leaseReply_eq {etag date : String} (plain : Plain etag.toList)
    (textual : Textual date.toList) (hv : value? headers "ETag" = some (bytesOf etag))
    (hv' : value? headers "Last-Modified" = some (bytesOf date)) :
    leaseReply headers = match Instant.ofRfc2822 date with
      | .error _ => .error (.invalidHeader "Last-Modified" date)
      | .ok t => .ok ⟨(headerText? headers "x-ms-lease-id").filter (! ·.isEmpty), etag, t⟩ := by
  have tag : headerText? headers etagName = some etag := headerText?_some plain.textual hv
  have dated : headerText? headers lastModifiedName = some date := headerText?_some textual hv'
  simp only [leaseReply, requiredText, tag, dated, ok_bind]
  rfl

/-- An answer that headers can tell: its texts are plain, and its date is one that can be written
and is read back. -/
structure Legible (answer : LeaseReply) : Prop where
  etag : Plain answer.etag.toList
  whole : answer.lastModified.nanos = 0
  inUse : answer.lastModified.Representable
  year : 0 ≤ answer.lastModified.civil.1.year
  leaseId : ∀ id, answer.leaseId = some id → Plain id.toList ∧ id ≠ ""

theorem leaseReply_grants {answer : LeaseReply} (tells : r.Grants answer)
    (legible : Legible answer) : leaseReply r.headers = .ok answer := by
  have back := Instant.ofRfc2822_toRfc2822 legible.whole legible.inUse legible.year
  have leaseId : headerText? r.headers "x-ms-lease-id" = answer.leaseId :=
    headerText?_eq (fun id h => (legible.leaseId id h).1.textual) tells.leaseId
  have named : answer.leaseId.filter (! ·.isEmpty) = answer.leaseId := by
    cases hl : answer.leaseId with
    | none => rfl
    | some id => exact Option.filter_some_pos (by simp [(legible.leaseId id hl).2])
  rw [leaseReply_eq legible.etag (Instant.textual_toRfc2822 _) tells.etag tells.lastModified, back]
  simp only [leaseId, named]

theorem leaseTime_breaks {seconds : UInt32} (tells : r.Breaks seconds) :
    leaseTime r.headers = .ok seconds := by
  have plain : Plain (String.ofList (decimal seconds.toNat)).toList := by
    rw [String.toList_ofList]
    exact plain_decimal _
  have text : strip isBlank (decimal seconds.toNat) = decimal seconds.toNat :=
    strip_of_forall fun c hc => isBlank_digit (isDigit_of_mem_decimal hc)
  have time : headerText? r.headers leaseTimeName = some _ :=
    headerText?_some plain.textual tells.time
  rw [leaseTime, time]
  simp only [String.toList_ofList, text, readUInt32?_decimal]

theorem elementText?_message {before message : List Char} (first : ¬ messageOpen <:+: before)
    (inside : ¬ messageClose <:+: message) (after : List Char) :
    elementText? (before ++ (messageOpen ++ (message ++ (messageClose ++ after))))
      ['M', 'e', 's', 's', 'a', 'g', 'e'] = some (strip isBlank message) := by
  have named : '<' ∉ ['M', 'e', 's', 's', 'a', 'g', 'e'] := by decide
  exact elementText?_first named first inside after

theorem decodeUtf8_mark (rest : List UInt8) :
    decodeUtf8 none (0xEF :: 0xBB :: 0xBF :: rest) = '\uFEFF' :: decodeUtf8 none rest :=
  decodeUtf8_encodeChar '\uFEFF' rest

/-- A byte with which no character begins is read as the replacement, which begins with another. -/
theorem encode_ne_cons {b : UInt8} (hb : startCharacter b = ([replacement], none))
    (text : List Char) (rest : List UInt8) : text.flatMap String.utf8EncodeChar ≠ b :: rest := by
  intro bytes
  have back := decodeUtf8_encode text
  rw [bytes, decodeUtf8, hb] at back
  -- so the text itself begins with the replacement
  have first : text.flatMap String.utf8EncodeChar = 0xEF :: 0xBF :: 0xBD ::
      (decodeUtf8 none rest).flatMap String.utf8EncodeChar := by
    rw [← back]
    rfl
  rw [bytes] at first
  obtain rfl : b = 0xEF := (List.cons.inj first).1
  simp [startCharacter] at hb

theorem decodeBody_unmarked {contentType : Option String} {bytes : List UInt8}
    (charset : ∀ label, contentType.bind charsetLabel? = some label →
      charsetOfLabel label = .utf8)
    (eight : ∀ rest, bytes ≠ 0xEF :: 0xBB :: 0xBF :: rest)
    (little : ∀ rest, bytes ≠ 0xFF :: rest) (big : ∀ rest, bytes ≠ 0xFE :: rest) :
    decodeBody contentType bytes = decodeUtf8 none bytes := by
  have named : ((contentType.bind charsetLabel?).map charsetOfLabel).getD .utf8 = .utf8 := by
    cases hl : contentType.bind charsetLabel? with
    | none => rfl
    | some label => exact charset label hl
  unfold decodeBody
  split
  · exact absurd rfl (eight _)
  · exact absurd rfl (little _)
  · exact absurd rfl (big _)
  · rw [named]
    rfl

/-- A text is read back from its bytes, but for a byte order mark at its front. -/
theorem decodeBody_encode {contentType : Option String} (text : List Char)
    (charset : ∀ label, contentType.bind charsetLabel? = some label →
      charsetOfLabel label = .utf8) :
    decodeBody contentType (text.flatMap String.utf8EncodeChar) =
      if text.head? = some '\uFEFF' then text.tail else text := by
  split
  · rename_i mark
    obtain ⟨rest, rfl⟩ := List.head?_eq_some_iff.mp mark
    have bytes : ('\uFEFF' :: rest).flatMap String.utf8EncodeChar =
        0xEF :: 0xBB :: 0xBF :: rest.flatMap String.utf8EncodeChar := rfl
    rw [bytes, decodeBody, decodeUtf8_encode]
    rfl
  · -- the bytes of a text show the marks of other encodings nowhere, and this one only for a mark
    rename_i unmarked
    rw [decodeBody_unmarked charset ?_ (encode_ne_cons rfl text)
      (encode_ne_cons rfl text), decodeUtf8_encode]
    intro rest bytes
    have back := decodeUtf8_encode text
    rw [bytes, decodeUtf8_mark] at back
    exact unmarked (by rw [← back]; rfl)

/-- The text of the body of a refusal, but for a byte order mark at its front. -/
theorem text_refuses {status : Nat} {code message : String}
    (tells : r.Refuses status code message) : ∃ before after : List Char,
      r.text = before ++ (messageOpen ++ (message.toList ++ (messageClose ++ after))) ∧
        ¬ messageOpen <:+: before := by
  obtain ⟨before, after, body, first⟩ := tells.body
  rw [Reply.text, if_pos tells.whole, body, bytesOf_eq, String.toList_ofList,
    decodeBody_encode _ tells.charset]
  split
  · rename_i mark
    cases before with
    | nil => cases mark
    | cons c before =>
      have rest : ¬ messageOpen <:+: before := fun inside =>
        first (inside.trans (List.suffix_cons c before).isInfix)
      exact ⟨before, after, rfl, rest⟩
  · exact ⟨before, after, rfl, first⟩

/-- A refusal that a reply can tell: neither a success nor a redirect, with a plain code, and with a
message that does not end its element and has no blanks at its ends. -/
structure LegibleRefusal (status : Nat) (code message : String) : Prop where
  status : ¬ (200 ≤ status ∧ status < 300) ∧ status ∉ redirectStatuses
  code : Plain code.toList ∧ code ≠ ""
  inside : ¬ messageClose <:+: message.toList
  trimmed : strip isBlank message.toList = message.toList

theorem legibleRefusal_iff {status : Nat} {code message : String} :
    LegibleRefusal status code message ↔
      (¬ (200 ≤ status ∧ status < 300) ∧ status ∉ redirectStatuses) ∧
        (Plain code.toList ∧ code ≠ "") ∧ ¬ messageClose <:+: message.toList ∧
        strip isBlank message.toList = message.toList :=
  ⟨fun h => ⟨h.status, h.code, h.inside, h.trimmed⟩, fun ⟨a, b, c, d⟩ => ⟨a, b, c, d⟩⟩

instance (status : Nat) (code message : String) :
    Decidable (LegibleRefusal status code message) :=
  decidable_of_iff' _ legibleRefusal_iff

def LegibleError (e : TransportError) : Prop :=
  ∃ status code message, e = .refused status (some code) message ∧
    LegibleRefusal status code message

/-- The refusal that a reply tells is the one that is read from it. -/
theorem refusal_refuses {status : Nat} {code message : String}
    (tells : r.Refuses status code message) (legible : LegibleRefusal status code message) :
    r.refusal = .refused status (some code) message := by
  obtain ⟨before, after, text, first⟩ := text_refuses tells
  have header : headerText? r.headers errorCodeName = some code :=
    headerText?_some legible.code.1.textual tells.code
  have read : refusalMessage r.text (reason? r.status) = message := by
    rw [refusalMessage, text, elementText?_message first legible.inside after, legible.trimmed]
    exact String.ofList_toList
  rw [Reply.refusal, read, refusalCode?, header, tells.status]
  simp [Option.filter, legible.code.2]

end FileLease.Http
