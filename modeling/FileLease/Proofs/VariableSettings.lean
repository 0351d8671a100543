import Mathlib.Data.List.Basic
import FileLease.Proofs.SettingsFiles
import FileLease.Proofs.VariableLists
import FileLease.Proofs.VariableNumbers

/-!
# Texts of variables as settings

A text in a variable stands for itself, unless it is a number, a truth value, a list or a table.
These do not fit a setting that is a text, and then all settings have their defaults.
-/
namespace FileLease.Settings
open Text

namespace Environment

/-- A text with neither blanks nor quotation marks around it. -/
structure Bare (s : List Char) : Prop where
  front : ∀ c ∈ s.head?, Text.isBlank c = false
  last : ∀ c ∈ s.getLast?, Text.isBlank c = false
  unquoted : ∀ mark ∈ ['\x22', '\x27'], ∀ inside, s ≠ mark :: (inside ++ [mark])

/-- Texts without quotation marks that do not stand for themselves. -/
inductive Typed : List Char → Prop
  | whole {s : List Char} (whole : Whole s) : Typed s
  | decimal {s : List Char} (decimal : Decimal s) : Typed s
  | truth : Typed ['t', 'r', 'u', 'e']
  | untruth : Typed ['f', 'a', 'l', 's', 'e']
  | bracket {b : Bracket} {s : List Char} (spelled : Spelled (.inside b) s) :
      Typed (b.opening :: s)

variable {s rest front : List Char} {c : Char} {e : Entry} {v : String}

def isNumeric (c : Char) : Bool :=
  c.isDigit || c = '+' || c = '-' || c = '.' || c = 'e' || c = 'E'

theorem numeric_of_digits (digits : Digits s) : ∀ c ∈ s, isNumeric c = true := by
  intro c hc
  rw [isNumeric, digits c hc]
  rfl

theorem numeric_of_sign (signed : Sign s) : ∀ c ∈ s, isNumeric c = true := by
  obtain rfl | rfl | rfl := signed <;> simp [isNumeric]

theorem numeric_of_number (number : Whole s ∨ Decimal s) : ∀ c ∈ s, isNumeric c = true := by
  obtain whole | decimal := number
  · cases whole with
    | plain read => exact numeric_of_digits (digits_of_readDecimal? read)
    | plus read =>
      exact List.forall_mem_cons.mpr ⟨rfl, numeric_of_digits (digits_of_readDecimal? read)⟩
    | minus read =>
      exact List.forall_mem_cons.mpr ⟨rfl, numeric_of_digits (digits_of_readDecimal? read)⟩
  · obtain @⟨sign, whole, part, exponent, signed, digits, digits', -, scale⟩ := decimal
    have scaled : ∀ c ∈ exponent, isNumeric c = true := by
      cases scale with
      | none => exact List.forall_mem_nil _
      | power marked signed some all =>
        refine List.forall_mem_cons.mpr ⟨?_, List.forall_mem_append.mpr
          ⟨numeric_of_sign signed, numeric_of_digits all⟩⟩
        obtain rfl | rfl := marked <;> rfl
    simp only [List.forall_mem_append, List.forall_mem_cons]
    exact ⟨numeric_of_sign signed, numeric_of_digits digits, rfl, numeric_of_digits digits',
      scaled⟩

theorem plain_of_isNumeric (numeric : isNumeric c = true) :
    Text.isBlank c = false ∧ isSeparator c = false ∧ c ≠ '\x22' ∧ c ≠ '\x27' := by
  simp only [isNumeric, Bool.or_eq_true, decide_eq_true_eq] at numeric
  obtain ((((digit | rfl) | rfl) | rfl) | rfl) | rfl := numeric
  · refine ⟨isBlank_digit digit, ?_, ne_of_isDigit digit rfl, ne_of_isDigit digit rfl⟩
    simp [isSeparator, ne_of_isDigit digit]
  all_goals decide

/-- Blanks of ASCII are blanks. -/
theorem isBlank_of_isBlank (blank : isBlank c = true) : Text.isBlank c = true := by
  have all : ∀ d ∈ [' ', '\t', '\n', '\x0c', '\r'], Text.isBlank d = true := by
    simp [Text.isBlank]
  exact all c (isBlank_iff.mp blank)

theorem isBlank_eq_false (visible : Text.isBlank c = false) : isBlank c = false :=
  Bool.eq_false_iff.mpr fun blank => by cases visible.symm.trans (isBlank_of_isBlank blank)

theorem word_of_numeric (numeric : ∀ c ∈ s, isNumeric c = true) : Word s where
  free c hc := (plain_of_isNumeric (numeric c hc)).2.1
  front c hc := by
    obtain ⟨visible, -, marks⟩ := plain_of_isNumeric (numeric c (List.mem_of_mem_head? hc))
    exact ⟨isBlank_eq_false visible, marks⟩
  truth h := absurd (numeric 't' (h.subset (by decide))) (by decide)
  untruth h := absurd (numeric 'f' (h.subset (by decide))) (by decide)

/-- A text is bare if its first and last characters show it. -/
theorem Bare.of_ends (front : s.head?.all (! Text.isBlank ·) = true)
    (last : s.getLast?.all (! Text.isBlank ·) = true)
    (mark : s.head? ≠ some '\x22' ∧ s.head? ≠ some '\x27') : Bare s where
  front := by simpa [Option.all_eq_true] using front
  last := by simpa [Option.all_eq_true] using last
  unquoted c hc inside whole := by
    rw [whole, List.head?_cons] at mark
    simp only [List.mem_cons, List.not_mem_nil, or_false] at hc
    obtain rfl | rfl := hc
    · exact mark.1 rfl
    · exact mark.2 rfl

/-- A word that is all of a text. -/
theorem told_readEntry_word (word : Word s) (strips : strip Text.isBlank s = s) :
    told (readEntry s) = some (wordEntry s, []) := by
  have start : s.dropWhile isBlank = s := dropWhile_eq_self fun c hc => (word.front c hc).1
  have other (b : Bracket) : s.head? ≠ some b.opening := fun head => by
    have free := word.free _ (List.mem_of_mem_head? head)
    cases b <;> cases free
  have taken : s.takeWhile (! isSeparator ·) = s :=
    List.takeWhile_eq_self_iff.mpr (by simpa using word.free)
  have left : s.dropWhile (! isSeparator ·) = [] :=
    List.dropWhile_eq_nil_iff.mpr (by simpa using word.free)
  rw [told_readEntry_scalar _ (by rwa [start]), start,
    told_readScalar?_word word.truth word.untruth fun c hc => (word.front c hc).2, taken, left,
    strips]
  rfl

/-- Nothing but blanks can be left of a text, and a bare one has none at its end. -/
theorem Bare.rest_eq_nil (bare : Bare (front ++ rest)) (blank : rest.dropWhile isBlank = []) :
    rest = [] := by
  refine List.getLast?_eq_none_iff.mp (Option.eq_none_iff_forall_not_mem.mpr fun c hc => ?_)
  have last := bare.last c (by rw [List.getLast?_append, hc]; rfl)
  have blank := List.dropWhile_eq_nil_iff.mp blank c (List.mem_of_mem_getLast? hc)
  rw [isBlank_of_isBlank blank] at last
  cases last

/-- A bare text that is read to its end is typed, or else a word. -/
theorem Bare.read (bare : Bare s) (h : told (readEntry s) = some (e, [])) :
    Typed s ∨ e = wordEntry s := by
  have start : s.dropWhile isBlank = s :=
    dropWhile_eq_self fun c hc => isBlank_eq_false (bare.front c hc)
  by_cases opens : ∃ b : Bracket, s.head? = some b.opening
  · obtain ⟨b, opens⟩ := opens
    obtain ⟨rest, rfl⟩ : ∃ rest, s = b.opening :: rest := ⟨_, List.eq_cons_of_mem_head? opens⟩
    rw [told_readEntry_bracket start] at h
    obtain ⟨⟨⟨⟩, left⟩, found, same⟩ := Option.map_eq_some_iff.mp h
    obtain ⟨inside, rfl, spelled⟩ := (readEntries_iff b rest left).mp found
    rw [← List.cons_append] at bare
    obtain rfl : left = [] := bare.rest_eq_nil (congrArg Prod.snd same)
    rw [List.append_nil]
    exact .inl (.bracket spelled)
  · have other (b : Bracket) : (s.dropWhile isBlank).head? ≠ some b.opening := by
      rw [start]
      exact fun same => opens ⟨b, same⟩
    have scalar := h
    rw [told_readEntry_scalar s other, start] at scalar
    obtain ⟨⟨value, left⟩, found, same⟩ := Option.map_eq_some_iff.mp scalar
    obtain ⟨front, rfl, closed | ⟨word, -⟩⟩ := scalar_of_readScalar? found fun c hc => by
      rw [← start] at hc
      exact head?_dropWhile hc
    · obtain rfl : left = [] := bare.rest_eq_nil (congrArg Prod.snd same)
      rw [List.append_nil] at bare ⊢
      cases closed with
      | truth => exact .inl .truth
      | untruth => exact .inl .untruth
      | quoted quoted => exact absurd rfl (bare.unquoted '\x22' (by decide) _)
      | character c => exact absurd rfl (bare.unquoted '\x27' (by decide) [c])
    · obtain rfl : left = [] := bare.rest_eq_nil (congrArg Prod.snd same)
      rw [List.append_nil] at bare h ⊢
      rw [told_readEntry_word word (strip_eq_self bare.front bare.last)] at h
      cases h
      exact .inr rfl

/-- A number, a truth value, a list or a table is read to its end, and not as a text. -/
theorem Typed.read (typed : Typed s) :
    ∃ e, told (readEntry s) = some (e, []) ∧ ∀ text, e ≠ .text text := by
  have number (number : Whole s ∨ Decimal s) :
      ∃ e, told (readEntry s) = some (e, []) ∧ ∀ text, e ≠ .text text := by
    have numeric := numeric_of_number number
    have strips := strip_of_forall fun c hc => (plain_of_isNumeric (numeric c hc)).1
    exact ⟨_, told_readEntry_word (word_of_numeric numeric) strips, wordEntry_of_number number⟩
  cases typed with
  | whole whole => exact number (.inl whole)
  | decimal decimal => exact number (.inr decimal)
  | truth =>
    have scalar := told_readEntry_scalar ['t', 'r', 'u', 'e'] fun b => by cases b <;> decide
    exact ⟨.other, scalar.trans rfl, nofun⟩
  | untruth =>
    have scalar := told_readEntry_scalar ['f', 'a', 'l', 's', 'e'] fun b => by cases b <;> decide
    exact ⟨.other, scalar.trans rfl, nofun⟩
  | @bracket b s spelled =>
    have start : (b.opening :: s).dropWhile isBlank = b.opening :: s := by cases b <;> rfl
    have found := (readEntries_iff b s []).mpr ⟨s, (List.append_nil s).symm, spelled⟩
    refine ⟨.other, ?_, nofun⟩
    rw [told_readEntry_bracket start, found]
    rfl

theorem entryOf_of_read (h : told (readEntry v.toList) = some (e, [])) : entryOf v = e := by
  obtain ⟨t, read, same⟩ := Option.map_eq_some_iff.mp h
  obtain ⟨value, left⟩ := Prod.mk.inj same
  unfold entryOf
  rw [read]
  simp only [left, List.isEmpty_nil, if_true, value]

theorem entryOf_of_not_read (h : ∀ e, told (readEntry v.toList) ≠ some (e, [])) :
    entryOf v = .text v := by
  unfold entryOf
  split
  · rename_i t read
    rw [if_neg]
    intro left
    refine h t.value ?_
    rw [read, told, Option.map_some, List.isEmpty_iff.mp left]
  · rfl

/-- A number, a truth value, a list or a table does not stand for itself. -/
theorem entryOf_of_typed (typed : Typed v.toList) (text : String) : entryOf v ≠ .text text := by
  obtain ⟨e, read, other⟩ := typed.read
  rw [entryOf_of_read read]
  exact other text

/-- Any other bare text stands for itself. -/
theorem entryOf_of_bare (bare : Bare v.toList) (untyped : ¬ Typed v.toList) :
    entryOf v = .text v := by
  by_cases read : ∃ e, told (readEntry v.toList) = some (e, [])
  · obtain ⟨e, read⟩ := read
    rw [entryOf_of_read read, (bare.read read).resolve_left untyped,
      wordEntry_text (mt .whole untyped) (mt .decimal untyped), String.ofList_toList]
  · exact entryOf_of_not_read fun e h => read ⟨e, h⟩

end Environment

def Key.isText : Key → Bool
  | .requestTimeout | .leaseTimeout => false
  | _ => true

theorem Key.fits_iff_of_isText {k : Key} (textual : k.isText = true) (e : Entry) :
    k.Fits e ↔ ∃ s, e = .text s := by
  cases k <;> first | exact Iff.rfl | cases textual

theorem Key.variableName_inj {k k' : Key} (same : k.variableName = k'.variableName) : k = k' := by
  have named := settingOf?_variableName k
  rw [same, settingOf?_variableName] at named
  simp only [Option.some.injEq, List.cons.injEq, and_true, String.toList_inj] at named
  exact Key.name_inj named.symm

def sole (k : Key) (v : String) (k' : Key) : Option String :=
  if k' = k then some v else none

theorem assigns_sole (k : Key) (v : String) : Assigns (sole k v) [(k.variableName, v)] where
  assigned k' text := by
    simp only [sole, Option.ite_none_right_eq_some, Option.some.injEq, List.mem_singleton,
      Prod.mk.injEq]
    constructor
    · rintro ⟨rfl, rfl⟩
      exact ⟨rfl, rfl⟩
    · rintro ⟨same, rfl⟩
      exact ⟨Key.variableName_inj same, rfl⟩
  others name text mem k' inner named := by
    obtain ⟨rfl, rfl⟩ := Prod.mk.inj (List.mem_singleton.mp mem)
    rw [settingOf?_variableName] at named
    simp only [Option.some.injEq, List.cons.injEq, String.toList_inj] at named
    rw [Key.name_inj named.1]

def fileValue (entries : Toml.Entries) (k : Key) : Option Entry :=
  (entries.lookup k.name).map Entry.ofNode

variable {k : Key} {v : String} {file : Option String} {entries : Toml.Entries}
  {environment : List (String × String)}

theorem counted_sole (assigns : Assigns (sole k v) environment) (entries : Toml.Entries)
    (k' : Key) : counted environment entries k' =
      if k' = k then some (Environment.entryOf v) else fileValue entries k' := by
  rw [counted_eq assigns]
  by_cases same : k' = k <;> simp [layered, sole, fileValue, same]

/-- A variable alone, with a text that is bare, gives this text to its setting, and all others have
their values from the file. But if the text is a number, a truth value, a list or a table, all
settings have their defaults, with a warning. -/
theorem load_text_variable (textual : k.isText = true) (bare : Environment.Bare v.toList)
    (opened : fileEntries file = some entries)
    (valid : ∀ k' ≠ k, ∀ e, fileValue entries k' = some e → k'.Fits e)
    (assigns : Assigns (sole k v) environment) :
    (¬ Environment.Typed v.toList → ∃ s, load file environment = (s, false) ∧
      ∀ k', s.value? k' =
        if k' = k then some (.text v) else (fileValue entries k' <|> default.value? k')) ∧
    (Environment.Typed v.toList → load file environment = (default, true)) := by
  constructor
  · intro untyped
    have entry := Environment.entryOf_of_bare bare untyped
    have fit (k' : Key) (e : Entry) (counts : counted environment entries k' = some e) :
        k'.Fits e := by
      rw [counted_sole assigns] at counts
      split at counts
      · rename_i same
        subst same
        exact (Key.fits_iff_of_isText textual e).mpr ⟨v, by rw [← entry, Option.some.inj counts]⟩
      · rename_i other
        exact valid k' other e counts
    obtain ⟨s, loaded, values⟩ := load_of_fits opened fit
    refine ⟨s, loaded, fun k' => ?_⟩
    rw [values, counted_sole assigns, entry]
    split <;> rfl
  · intro typed
    refine load_of_unfit fun entries _ => ⟨k, Environment.entryOf v, ?_, fun fits => ?_⟩
    · rw [counted_sole assigns, if_pos rfl]
    · obtain ⟨text, same⟩ := (Key.fits_iff_of_isText textual _).mp fits
      exact Environment.entryOf_of_typed typed text same

/-- A version with dashes arrives. Without them it is a number, and all settings are lost. -/
theorem load_dated_version :
    load (some "account_url = \"https://a.example\"\n") [("FILESHARE_API_VERSION", "2020-02-10")] =
        ({ default with accountUrl := "https://a.example", apiVersion := "2020-02-10" }, false) ∧
      load (some "account_url = \"https://a.example\"\n") [("FILESHARE_API_VERSION", "20200210")] =
        (default, true) := by
  have opens : (fileEntries (some "account_url = \"https://a.example\"\n")).isSome := by
    decide +kernel
  have values (k : Key) : fileValue ((fileEntries _).get opens) k =
      if k = .accountUrl then some (.text "https://a.example") else none := by
    cases k <;> decide +kernel +revert
  have valid (k : Key) (_ : k ≠ .apiVersion) (e : Entry)
      (he : fileValue ((fileEntries _).get opens) k = some e) : k.Fits e := by
    rw [values] at he
    cases k with
    | accountUrl => exact ⟨_, (Option.some.inj he).symm⟩
    | _ => cases he
  have variable_name : "FILESHARE_API_VERSION" = Key.variableName .apiVersion := by decide +kernel
  have arrives (v : String) (bare : Environment.Bare v.toList) :=
    load_text_variable (k := .apiVersion) rfl bare (Option.some_get opens).symm valid
      (assigns_sole .apiVersion v)
  rw [variable_name]
  constructor
  · have bare : Environment.Bare "2020-02-10".toList := .of_ends rfl rfl (by decide)
    have untyped : ¬ Environment.Typed "2020-02-10".toList := fun typed =>
      Environment.entryOf_of_typed typed "2020-02-10" (by decide +kernel)
    obtain ⟨s, loaded, has⟩ := (arrives _ bare).1 untyped
    rw [loaded]
    congr 1
    refine eq_of_values fun k => ?_
    rw [has, values]
    cases k <;> rfl
  · have bare : Environment.Bare "20200210".toList := .of_ends rfl rfl (by decide)
    have read : readDecimal? "20200210".toList = some 20200210 := by decide +kernel
    exact (arrives _ bare).2 (.whole (.plain read (by decide)))

/-- A version that is a whole number does not arrive, and the file is lost with it. -/
theorem load_numeric_version :
    Environment.Bare "20190707".toList ∧
      load (some "account_url = \"https://a.example\"\n") [] =
        ({ default with accountUrl := "https://a.example" }, false) ∧
      load (some "account_url = \"https://a.example\"\n") [("FILESHARE_API_VERSION", "20190707")] =
        (default, true) := by
  refine ⟨.of_ends rfl rfl (by decide), ?_, ?_⟩ <;> decide +kernel

end FileLease.Settings
