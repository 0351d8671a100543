import FileLease.Proofs.SettingLayers
import FileLease.Proofs.TomlTexts
import FileLease.Settings.Toml

/-!
# Files of settings

The lines of a written file are read back key by key, so settings that are written to a file are
loaded from it as they were.
-/
namespace FileLease.Toml
open Text

theorem digitsValue_decimal (n : Nat) : digitsValue 10 (decimal n) = n := by
  induction n using Nat.strongRecOn with
  | ind n ih =>
    by_cases hn : n < 10
    · rw [decimal_of_lt hn]
      simp [digitsValue, hexValue?_digitChar n (by omega)]
    · have last := hexValue?_digitChar (n % 10) (by omega)
      have front := ih (n / 10) (by omega)
      rw [digitsValue] at front ⊢
      rw [decimal_succ (by omega), List.filterMap_append, List.foldl_append, front]
      simp only [List.filterMap_cons, last, List.filterMap_nil, List.foldl_cons, List.foldl_nil]
      omega

theorem isDecimal_decimal (n : Nat) : isDecimal (decimal n) = true := by
  have digits : isDigits Char.isDigit (decimal n) = true := by
    have none : '_' ∉ decimal n := fun h => by cases isDigit_of_mem_decimal h
    simpa [isDigits, List.splitOn_eq_singleton none, decimal_ne_nil] using
      fun c => isDigit_of_mem_decimal (n := n) (c := c)
  obtain rfl | hn := Nat.eq_zero_or_pos n
  · decide
  · simp [isDecimal, digits, head?_decimal hn]

/-- A whole number of 63 bits is read back. -/
theorem readInteger?_decimal {n : Nat} (hn : n < UInt64.size / 2) :
    readInteger? (decimal n) = some (n : Int) := by
  have digit {c : Char} (h : c ∈ decimal n) := isDigit_of_mem_decimal h
  unfold readInteger?
  split
  next digits heq => cases digit (c := 'x') (by simp [heq])
  next digits heq => cases digit (c := 'o') (by simp [heq])
  next digits heq => cases digit (c := 'b') (by simp [heq])
  next =>
    have minus : (decimal n).head? ≠ some '-' := head?_decimal_of_not_digit rfl
    have plus : (decimal n).head? ≠ some '+' := head?_decimal_of_not_digit rfl
    simp only [withoutSign, minus, plus, or_self, if_false, isDecimal_decimal, digitsValue_decimal]
    rw [if_pos ⟨trivial, by omega, by omega⟩]

theorem readWord?_decimal {n : Nat} (hn : n < UInt64.size / 2) (tail : List Char) :
    Finds (readWord? (decimal n ++ '\n' :: tail)) (.integer n) ('\n' :: tail) := by
  have word {c : Char} (h : c.isDigit = true) : isWordChar c = true := by
    simp [isWordChar, Char.isAlphanum, h]
  have value : wordValue? (decimal n) = some (.integer n) := by
    have other {c : Char} {s : List Char} (h : c.isDigit = false) : decimal n ≠ c :: s :=
      fun same => head?_decimal_of_not_digit h (congrArg List.head? same)
    rw [wordValue?, if_neg (other rfl), if_neg (other rfl), readInteger?_decimal hn]
  obtain ⟨c, rest, digits, first, others⟩ := decimal_eq_cons n
  obtain ⟨h, run⟩ : ∃ h, takeRun isWordChar (rest ++ '\n' :: tail) = ⟨rest, '\n' :: tail, h⟩ :=
    takeRun_eq (fun d h => word (others d h)) rfl
  have noTime {s : List Char} (h) :
      readTime? (⟨c :: rest, '\n' :: tail, h⟩ : Taken 1 s (List Char)) = none := rfl
  rw [digits] at value ⊢
  rw [List.cons_append, readWord?, if_pos (word first)]
  simp only [run, Taken.map, Taken.behind, noTime, value, Option.map_some,
    Option.orElse_eq_orElse, Option.orElse_none]
  exact ⟨_, rfl⟩

def Plain.node : Plain → Node
  | .text s => .text s
  | .integer n => .integer n

def Plain.Fits : Plain → Prop
  | .text _ => True
  | .integer n => n < UInt64.size / 2

/-- A key that needs no quotation marks. -/
def Bare (key : String) : Prop :=
  key.toList ≠ [] ∧ key.toList.all isBareKeyChar = true

theorem not_blank_of_isBareKeyChar {c : Char} (h : isBareKeyChar c = true) :
    isBlank c = false ∧ c ≠ '#' ∧ c ≠ '\n' ∧ c ≠ '\r' ∧ c ≠ '[' ∧ c ≠ '\x22' ∧ c ≠ '\'' ∧
      c ≠ '\uFEFF' := by
  refine ⟨?_, ?_, ?_, ?_, ?_, ?_, ?_, ?_⟩
  · cases blank : isBlank c with
    | false => rfl
    | true =>
      obtain rfl | rfl : c = ' ' ∨ c = '\t' := by simpa [isBlank] using blank
      · cases h
      · cases h
  all_goals
    rintro rfl
    cases h

/-- A value is read back. -/
theorem readValue?_plain (depth : Nat) {v : Plain} (fits : v.Fits) (tail : List Char) :
    Finds (readValue? depth (plainValue v ++ '\n' :: tail)) v.node ('\n' :: tail) := by
  cases v with
  | text s =>
    obtain ⟨mark, rest, isMark, text, h, read⟩ := readText?_textValue s.toList
      ('\n' :: tail) (by simp) (by simp)
    rw [String.ofList_toList] at read
    rw [plainValue, text, readValue?.eq_def]
    simp only
    have isMark : mark = '\x22' ∨ mark = '\'' := isMark
    rw [if_pos isMark, read]
    exact ⟨_, rfl⟩
  | integer n =>
    have read := readWord?_decimal fits tail
    obtain ⟨c, rest, digits, digit, -⟩ := decimal_eq_cons n
    rw [digits] at read
    rw [plainValue, digits, List.cons_append, readValue?.eq_def]
    simp only
    rw [if_neg (not_or.mpr ⟨ne_of_isDigit digit rfl, ne_of_isDigit digit rfl⟩),
      if_neg (ne_of_isDigit digit rfl), if_neg (ne_of_isDigit digit rfl)]
    exact read

def Unindented (s : List Char) : Prop :=
  s.head?.all (! isBlank ·) = true

theorem skipBlanks_eq {s : List Char} (front : Unindented s) : ∃ h, skipBlanks s = ⟨(), s, h⟩ := by
  obtain ⟨h, run⟩ : ∃ h, takeRun isBlank ([] ++ s) = ⟨[], s, h⟩ :=
    takeRun_eq (fun c hc => nomatch hc) front
  exact ⟨h, congrArg (Taken.map fun _ => ()) run⟩

theorem skipBlanks_space {s : List Char} (front : Unindented s) :
    ∃ h, skipBlanks (' ' :: s) = ⟨(), s, h⟩ := by
  have blank : [' '].all isBlank = true := by decide
  obtain ⟨h, run⟩ := takeRun_eq (List.all_eq_true.mp blank) front
  exact ⟨h, congrArg (Taken.map fun _ => ()) run⟩

theorem unindented_plainValue (v : Plain) (tail : List Char) :
    Unindented (plainValue v ++ '\n' :: tail) := by
  cases v with
  | text s =>
    obtain ⟨mark, rest, isMark, text, -⟩ := readText?_textValue s.toList
      ('\n' :: tail) (by simp) (by simp)
    rw [plainValue, text]
    obtain rfl | rfl := isMark
    · rfl
    · rfl
  | integer n =>
    obtain ⟨c, rest, digits, digit, -⟩ := decimal_eq_cons n
    have bare : isBareKeyChar c = true := by simp [isBareKeyChar, Char.isAlphanum, digit]
    simp [plainValue, digits, Unindented, not_blank_of_isBareKeyChar bare]

theorem readKey?_bare {key : String} (bare : Bare key) (tail : List Char) :
    Finds (readKey? (key.toList ++ ' ' :: '=' :: tail)) [key] ('=' :: tail) := by
  obtain ⟨ne, chars⟩ := bare
  rw [List.all_eq_true] at chars
  cases h : key.toList with
  | nil => exact absurd h ne
  | cons c rest =>
    rw [h] at chars
    have first := chars c List.mem_cons_self
    obtain ⟨-, -, -, -, -, quote, apostrophe, -⟩ := not_blank_of_isBareKeyChar first
    obtain ⟨h', run⟩ : ∃ h, takeRun isBareKeyChar (rest ++ ' ' :: '=' :: tail) =
        ⟨rest, ' ' :: '=' :: tail, h⟩ :=
      takeRun_eq (fun d hd => chars d (List.mem_cons_of_mem _ hd)) rfl
    have name : String.ofList (c :: rest) = key := by rw [← h, String.ofList_toList]
    have part : Finds (readSimpleKey? (c :: (rest ++ ' ' :: '=' :: tail))) key
        (' ' :: '=' :: tail) := by
      rw [readSimpleKey?, if_neg (not_or.mpr ⟨quote, apostrophe⟩), if_pos first, run, ← name]
      exact ⟨_, rfl⟩
    obtain ⟨h'', part⟩ := part
    rw [List.cons_append, readKey?, part]
    exact ⟨_, rfl⟩

def lineText (line : String × Plain) : List Char :=
  line.1.toList ++ ' ' :: '=' :: ' ' :: plainValue line.2 ++ ['\n']

/-- A line that can be read back. -/
structure Legible (line : String × Plain) : Prop where
  bare : Bare line.1
  fits : line.2.Fits

variable {line : String × Plain}

theorem lineText_append (line : String × Plain) (tail : List Char) : lineText line ++ tail =
    line.1.toList ++ ' ' :: '=' :: ' ' :: (plainValue line.2 ++ '\n' :: tail) := by
  simp [lineText]

theorem readPair_line (legible : Legible line) (depth : Nat) (tail : List Char) :
    Finds (readPair (readValue? depth) (lineText line ++ tail)) ([line.1], line.2.node)
      ('\n' :: tail) := by
  obtain ⟨h, key⟩ := readKey?_bare legible.bare (' ' :: (plainValue line.2 ++ '\n' :: tail))
  obtain ⟨h', value⟩ := readValue?_plain depth legible.fits tail
  obtain ⟨h'', blanks⟩ := skipBlanks_space (unindented_plainValue line.2 tail)
  rw [lineText_append, readPair, key]
  simp only [pure, Option.bind_eq_bind, Option.bind_some, readSpaced?, readMark?,
    if_true, Option.map_some, Taken.extended, Taken.first, blanks, value]
  exact ⟨_, rfl⟩

/-- The text of a line begins with its key. -/
theorem lineText_cons (legible : Legible line) (tail : List Char) :
    ∃ c rest, lineText line ++ tail = c :: rest ∧ isBareKeyChar c = true := by
  obtain ⟨ne, chars⟩ := legible.bare
  rw [List.all_eq_true] at chars
  cases key : line.1.toList with
  | nil => exact absurd key ne
  | cons c rest =>
    rw [key] at chars
    exact ⟨c, _, by rw [lineText_append, key, List.cons_append], chars c List.mem_cons_self⟩

theorem readStatement?_pair {c : Char} (bracket : c ≠ '[') (state : State) (rest : List Char) :
    readStatement? state (c :: rest) =
      (readPair (readValue? maxDepth) (c :: rest)).bind fun pair =>
        (state.root.change (·.putDotted pair.value.2 pair.value.1) state.current).bind fun root =>
          some (pair.map fun _ => { state with root }) := by
  rw [readStatement?]
  · rfl
  · exact fun _ h => bracket (List.cons.inj h).1
  · exact fun _ h => bracket (List.cons.inj h).1

/-- A line puts a value under its key. -/
theorem readStatement?_line (legible : Legible line) {root : Entries}
    (fresh : root.lookup line.1 = none) (tail : List Char) :
    Finds (readStatement? ⟨root, []⟩ (lineText line ++ tail))
      ⟨root ++ [(line.1, line.2.node)], []⟩ ('\n' :: tail) := by
  have pair := readPair_line legible maxDepth tail
  obtain ⟨c, rest, text, bare⟩ := lineText_cons legible tail
  have bracket := (not_blank_of_isBareKeyChar bare).2.2.2.2.1
  rw [text] at pair ⊢
  obtain ⟨h, pair⟩ := pair
  have free : (root.change (·.putDotted line.2.node [line.1]) []) =
      some (root ++ [(line.1, line.2.node)]) := by
    simp [Entries.change, Entries.putDotted, fresh]
  rw [readStatement?_pair bracket, pair]
  simp only [pure, Option.bind_some, free]
  exact ⟨_, rfl⟩

theorem skipRemark_eq {c : Char} (blank : isBlank c = false) (remark : c ≠ '#') (rest : List Char) :
    ∃ h, skipRemark (c :: rest) = ⟨(), c :: rest, h⟩ := by
  obtain ⟨h, blanks⟩ := skipBlanks_eq (s := c :: rest) (by simp [Unindented, blank])
  have comment : skipComment (c :: rest) = .none (c :: rest) () := by simp [skipComment, remark]
  rw [skipRemark, blanks, comment]
  exact ⟨_, rfl⟩

/-- After a line comes the rest of the document. -/
theorem readRest?_line (legible : Legible line) {root : Entries}
    (fresh : root.lookup line.1 = none) (tail : List Char) :
    readRest? ⟨root, []⟩ (lineText line ++ tail) =
      readRest? ⟨root ++ [(line.1, line.2.node)], []⟩ tail := by
  have statement := readStatement?_line legible fresh tail
  obtain ⟨c, rest, text, bare⟩ := lineText_cons legible tail
  obtain ⟨blank, remark, newline, return_, -⟩ := not_blank_of_isBareKeyChar bare
  rw [text] at statement ⊢
  obtain ⟨h, statement⟩ := statement
  obtain ⟨h', noRemark⟩ := skipRemark_eq blank remark rest
  obtain ⟨h', noRemark'⟩ := skipRemark_eq (c := '\n') (by decide) (by decide) tail
  obtain ⟨h', noBlanks⟩ := skipBlanks_eq (s := c :: rest) (by simp [Unindented, blank])
  have noLine : readNewline? (c :: rest) = none := by simp [readNewline?, newline, return_]
  have line : readNewline? ('\n' :: tail) = some (.first ()) := rfl
  rw [readRest?]
  simp only
  rw [noRemark]
  simp only
  rw [noLine, noBlanks]
  simp only
  rw [statement]
  simp only [pure, Taken.followed, Taken.on, Taken.extended]
  rw [noRemark']
  rfl

def nodes (lines : List (String × Plain)) : Entries :=
  lines.map fun line => (line.1, line.2.node)

/-- The lines of a document are read back one by one. -/
theorem readRest?_document {lines : List (String × Plain)}
    (legible : ∀ line ∈ lines, Legible line) (root : Entries)
    (distinct : (root.map (·.1) ++ lines.map (·.1)).Nodup) :
    readRest? ⟨root, []⟩ (document lines) = some (root ++ nodes lines) := by
  induction lines generalizing root with
  | nil =>
    rw [nodes, List.map_nil, List.append_nil, readRest?]
    rfl
  | cons line lines ih =>
    have fresh : root.lookup line.1 = none := by
      refine List.lookup_eq_none_iff.mpr fun entry h => ?_
      have other := (List.nodup_append.mp distinct).2.2 entry.1 (List.mem_map_of_mem h) line.1
        List.mem_cons_self
      simpa using Ne.symm other
    have text : document (line :: lines) = lineText line ++ document lines := rfl
    rw [text, readRest?_line (legible line List.mem_cons_self) fresh,
      ih (fun other h => legible other (List.mem_cons_of_mem _ h)) _, List.append_assoc]
    · rfl
    · rw [List.map_append, List.append_assoc]
      exact distinct

/-- A document is read back. -/
theorem read?_document {lines : List (String × Plain)} (legible : ∀ line ∈ lines, Legible line)
    (distinct : (lines.map (·.1)).Nodup) :
    read? (String.ofList (document lines)) = some (nodes lines) := by
  have mark : (document lines).head? ≠ some '\uFEFF' := by
    cases lines with
    | nil => exact nofun
    | cons line lines =>
      have text : document (line :: lines) = lineText line ++ document lines := rfl
      obtain ⟨c, rest, front, bare⟩ :=
        lineText_cons (legible line List.mem_cons_self) (document lines)
      rw [text, front]
      exact fun h => (not_blank_of_isBareKeyChar bare).2.2.2.2.2.2.2 (Option.some.inj h)
  rw [read?, String.toList_ofList, if_neg mark, readRest?_document legible [] distinct,
    List.nil_append]

end FileLease.Toml

namespace FileLease.Settings
open Toml

def Key.all : List Key :=
  [.accountUrl, .sasToken, .apiVersion, .requestTimeout, .leaseTimeout, .userAgentSuffix]

theorem Key.name_inj {k k' : Key} (h : k.name = k'.name) : k = k' := by
  cases k <;> cases k' <;> first | rfl | simp [Key.name] at h

theorem Key.bare (k : Key) : Bare k.name := by
  cases k <;> exact ⟨by decide, by decide⟩

variable {s : Settings}

def plain? (s : Settings) : Key → Option Plain
  | .accountUrl => some (.text s.accountUrl)
  | .sasToken => s.sasToken.map .text
  | .apiVersion => some (.text s.apiVersion)
  | .requestTimeout => some (.integer s.requestTimeout.toNat)
  | .leaseTimeout => s.leaseTimeout.map fun n => .integer n.toNat
  | .userAgentSuffix => s.userAgentSuffix.map .text

def line? (s : Settings) (k : Key) : Option (String × Plain) :=
  (s.plain? k).map (k.name, ·)

theorem toLines_eq (s : Settings) : s.toLines = Key.all.filterMap s.line? := by
  obtain ⟨url, token, version, request, lease, suffix⟩ := s
  cases token <;> cases lease <;> cases suffix <;> rfl

theorem lookup_lines (s : Settings) (keys : List Key) (k : Key) :
    (keys.filterMap s.line?).lookup k.name = if k ∈ keys then s.plain? k else none := by
  induction keys with
  | nil => rfl
  | cons k' keys ih =>
    rw [List.filterMap_cons]
    by_cases own : k = k'
    · subst own
      cases value : s.plain? k with
      | none => simp [line?, value, ih]
      | some v => simp [line?, value]
    · have other : (k.name == k'.name) = false := by simpa using fun h => own (Key.name_inj h)
      cases value : s.plain? k' with
      | none => simp [line?, value, ih, own]
      | some v => simp [line?, value, ih, own, List.lookup_cons, other]

theorem keys_lines (s : Settings) (keys : List Key) :
    ((keys.filterMap s.line?).map (·.1)).Sublist (keys.map Key.name) := by
  induction keys with
  | nil => exact .slnil
  | cons k keys ih =>
    rw [List.filterMap_cons, List.map_cons]
    cases value : s.plain? k with
    | none => simpa [line?, value] using ih.cons k.name
    | some v => simpa [line?, value] using ih

theorem keys_toLines (s : Settings) : (s.toLines.map (·.1)).Nodup := by
  have all : (Key.all.map Key.name).Nodup := by decide
  rw [toLines_eq]
  exact all.sublist (keys_lines s Key.all)

theorem lookup_nodes (lines : List (String × Plain)) (key : String) :
    (nodes lines).lookup key = (lines.lookup key).map Plain.node := by
  induction lines with
  | nil => rfl
  | cons line lines ih =>
    rw [nodes, List.map_cons, List.lookup_cons, List.lookup_cons]
    cases key == line.1 with
    | true => rfl
    | false => exact ih

/-- The file has the values of the settings. -/
theorem lookup_toLines (s : Settings) (k : Key) :
    ((nodes s.toLines).lookup k.name).map Entry.ofNode = s.value? k := by
  have mem : k ∈ Key.all := by cases k <;> decide
  rw [toLines_eq, lookup_nodes, lookup_lines, if_pos mem]
  cases k <;> simp [plain?, value?, Plain.node, Entry.ofNode, Function.comp_def]

theorem legible_toLines (small : s.requestTimeout.toNat < Nat.pow 2 63) :
    ∀ line ∈ s.toLines, Legible line := by
  intro line mem
  rw [toLines_eq] at mem
  obtain ⟨k, -, own⟩ := List.mem_filterMap.mp mem
  obtain ⟨v, value, rfl⟩ := Option.map_eq_some_iff.mp own
  refine ⟨k.bare, ?_⟩
  cases k with
  | requestTimeout =>
    cases value
    exact small
  | leaseTimeout =>
    obtain ⟨n, -, rfl⟩ := Option.map_eq_some_iff.mp value
    exact Nat.lt_trans n.toNat_lt_size (by decide)
  | accountUrl | apiVersion =>
    cases value
    trivial
  | sasToken | userAgentSuffix =>
    obtain ⟨text, -, rfl⟩ := Option.map_eq_some_iff.mp value
    trivial

theorem fits_value? {k : Key} {e : Entry} (h : s.value? k = some e) : k.Fits e := by
  cases k with
  | requestTimeout => exact ⟨_, s.requestTimeout.toNat_lt_size, (Option.some.inj h).symm⟩
  | leaseTimeout =>
    obtain ⟨n, -, rfl⟩ := Option.map_eq_some_iff.mp h
    exact ⟨_, n.toNat_lt_size, rfl⟩
  | accountUrl | apiVersion => exact ⟨_, (Option.some.inj h).symm⟩
  | sasToken | userAgentSuffix =>
    obtain ⟨text, -, rfl⟩ := Option.map_eq_some_iff.mp h
    exact ⟨_, rfl⟩

/-- A setting that has no value has none by default. -/
theorem value?_orElse_default (s : Settings) (k : Key) :
    (s.value? k <|> default.value? k) = s.value? k := by
  cases value : s.value? k with
  | some e => rfl
  | none => cases k <;> first | rfl | cases value

def Silent (environment : List (String × String)) : Prop :=
  ∀ v ∈ environment, ∀ (k : Key) inner,
    Environment.settingOf? v.1 ≠ some (k.name.toList :: inner)

theorem lookup_silent {environment : List (String × String)} (silent : Silent environment)
    (k : Key) : Environment.lookup environment k.name = none := by
  refine List.findSome?_eq_none_iff.mpr fun (name, text) mem => ?_
  have other := silent (name, text) (List.mem_reverse.mp mem) k
  simp only
  split
  next key inner named =>
    rw [if_neg]
    rintro rfl
    exact other inner named
  next => rfl

/-- Settings are loaded from their file as they were written. -/
theorem load_toToml (small : s.requestTimeout.toNat < Nat.pow 2 63)
    {environment : List (String × String)} (silent : Silent environment) :
    load (some s.toToml) environment = (s, false) := by
  have opened : fileEntries (some s.toToml) = some (nodes s.toLines) :=
    read?_document (legible_toLines small) (keys_toLines s)
  have counts (k : Key) : counted environment (nodes s.toLines) k = s.value? k := by
    rw [counted, lookup_silent silent, lookup_toLines]
    rfl
  have fit (k : Key) (e : Entry)
      (h : counted environment (nodes s.toLines) k = some e) : k.Fits e :=
    fits_value? (counts k ▸ h)
  obtain ⟨t, loaded, values⟩ := load_of_fits opened fit
  have same : t = s := eq_of_values fun k => by
    rw [values, counts, value?_orElse_default]
  rw [loaded, same]

/-- Settings whose texts need several forms of strings. -/
def thorny : Settings where
  accountUrl := "https://a.file.core.windows.net/it's \"ok\""
  sasToken := some "sv=1\\2\n\"\"\"\r\t\x00"
  apiVersion := "'\\'"
  requestTimeout := 9223372036854775807
  leaseTimeout := some 0
  userAgentSuffix := some "\nlines\n'''\""

theorem load_thorny : load (some thorny.toToml) [("HOME", "/root")] = (thorny, false) :=
  load_toToml (by decide) fun v mem k inner named => by
    have home : Environment.settingOf? "HOME" = none := by decide +kernel
    obtain rfl := List.mem_singleton.mp mem
    cases home.symm.trans named

end FileLease.Settings
