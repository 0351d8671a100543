import Mathlib.Data.List.Basic
import FileLease.Settings.Load

/-!
# The layers of the settings

A setting has the value of its variable, or else that of the file, or else its default, whatever the
other settings are. If the value that counts for a setting does not fit, no value counts at all.
-/
namespace FileLease.Settings

inductive Key
  | accountUrl
  | sasToken
  | apiVersion
  | requestTimeout
  | leaseTimeout
  | userAgentSuffix
  deriving DecidableEq

namespace Key

def name : Key → String
  | .accountUrl => "account_url"
  | .sasToken => "sas_token"
  | .apiVersion => "api_version"
  | .requestTimeout => "request_timeout_secs"
  | .leaseTimeout => "lease_timeout_secs"
  | .userAgentSuffix => "user_agent_suffix"

def variableName (k : Key) : String :=
  String.ofList ("FILESHARE_".toList ++ k.name.toList.map Char.toUpper)

/-- The values that a setting can have: texts, or whole numbers of 64 or 32 bits without a sign. -/
def Fits : Key → Entry → Prop
  | .requestTimeout, e => ∃ n : Nat, n < UInt64.size ∧ e = .integer n
  | .leaseTimeout, e => ∃ n : Nat, n < UInt32.size ∧ e = .integer n
  | .accountUrl, e | .sasToken, e | .apiVersion, e | .userAgentSuffix, e => ∃ s, e = .text s

end Key

def value? (s : Settings) : Key → Option Entry
  | .accountUrl => some (.text s.accountUrl)
  | .sasToken => s.sasToken.map .text
  | .apiVersion => some (.text s.apiVersion)
  | .requestTimeout => some (.integer s.requestTimeout.toNat)
  | .leaseTimeout => s.leaseTimeout.map fun n => .integer n.toNat
  | .userAgentSuffix => s.userAgentSuffix.map .text

/-- Settings are determined by their values. -/
theorem eq_of_values {s t : Settings} (same : ∀ k, s.value? k = t.value? k) : s = t := by
  have text : Function.Injective (Option.map Entry.text) :=
    Option.map_injective fun _ _ h => Entry.text.inj h
  have number : Function.Injective (Option.map fun n : UInt32 => Entry.integer n.toNat) :=
    Option.map_injective fun _ _ h => UInt32.toNat_inj.mp (Int.ofNat.inj (Entry.integer.inj h))
  have url := Entry.text.inj (Option.some.inj (same .accountUrl))
  have token := text (same .sasToken)
  have version := Entry.text.inj (Option.some.inj (same .apiVersion))
  have request := UInt64.toNat_inj.mp
    (Int.ofNat.inj (Entry.integer.inj (Option.some.inj (same .requestTimeout))))
  have lease := number (same .leaseTimeout)
  have suffix := text (same .userAgentSuffix)
  cases s
  cases t
  simp_all

theorem asText_eq_some {e : Entry} {s : String} : asText e = some s ↔ e = .text s := by
  cases e <;> simp [asText]

theorem asNatural_eq_some {bound n : Nat} {e : Entry} :
    asNatural bound e = some n ↔ n < bound ∧ e = .integer n := by
  cases e with
  | text s => simp [asNatural]
  | integer m =>
    simp only [asNatural, Option.ite_none_right_eq_some, Option.some.injEq, Entry.integer.injEq]
    omega
  | other => simp [asNatural]

theorem typed_eq_some {α : Type} {read : Entry → Option α} {missing a : α} {entry : Option Entry} :
    typed read missing entry = some a ↔
      (entry = none ∧ a = missing) ∨ ∃ e, entry = some e ∧ read e = some a := by
  cases entry <;> simp [typed, eq_comm]

theorem typed_some {α : Type} {read : Entry → Option α} (missing : α) {entry : Option Entry}
    (fit : ∀ e, entry = some e → ∃ a, read e = some a) :
    ∃ a, typed read missing entry = some a := by
  cases entry with
  | none => exact ⟨missing, rfl⟩
  | some e => exact fit e rfl

variable {entry : Option Entry}

theorem typed_text {missing a : String} (typed : typed asText missing entry = some a) :
    (∀ e, entry = some e → ∃ s, e = .text s) ∧
      some (.text a) = (entry <|> some (.text missing)) := by
  obtain ⟨rfl, rfl⟩ | ⟨e, rfl, read⟩ := typed_eq_some.mp typed
  · simp
  · obtain rfl := asText_eq_some.mp read
    simp

theorem typed_optionalText {a : Option String}
    (typed : typed (fun e => (asText e).map some) none entry = some a) :
    (∀ e, entry = some e → ∃ s, e = .text s) ∧ a.map .text = (entry <|> none) := by
  obtain ⟨rfl, rfl⟩ | ⟨e, rfl, read⟩ := typed_eq_some.mp typed
  · simp
  · obtain ⟨s, read', rfl⟩ := Option.map_eq_some_iff.mp read
    obtain rfl := asText_eq_some.mp read'
    simp

theorem typed_natural {bound missing n : Nat}
    (typed : typed (asNatural bound) missing entry = some n) :
    (∀ e, entry = some e → ∃ n : Nat, n < bound ∧ e = .integer n) ∧
      some (.integer n) = (entry <|> some (.integer missing)) ∧
      (missing < bound → n < bound) := by
  obtain ⟨rfl, rfl⟩ | ⟨e, rfl, read⟩ := typed_eq_some.mp typed
  · simp
  · obtain ⟨below, rfl⟩ := asNatural_eq_some.mp read
    refine ⟨?_, rfl, fun _ => below⟩
    rintro e ⟨⟩
    exact ⟨n, below, rfl⟩

theorem typed_optionalNatural {bound : Nat} {a : Option Nat}
    (typed : typed (fun e => (asNatural bound e).map some) none entry = some a) :
    (∀ e, entry = some e → ∃ n : Nat, n < bound ∧ e = .integer n) ∧
      a.map (fun n => .integer n) = (entry <|> none) ∧ ∀ n ∈ a, n < bound := by
  obtain ⟨rfl, rfl⟩ | ⟨e, rfl, read⟩ := typed_eq_some.mp typed
  · simp
  · obtain ⟨n, read', rfl⟩ := Option.map_eq_some_iff.mp read
    obtain ⟨below, rfl⟩ := asNatural_eq_some.mp read'
    refine ⟨?_, rfl, ?_⟩
    · rintro e ⟨⟩
      exact ⟨n, below, rfl⟩
    · rintro m ⟨⟩
      exact below

variable {entries : String → Option Entry} {s : Settings}

/-- Settings are made from values that all fit, and from the defaults where there is none. -/
theorem ofEntries_eq_some (made : ofEntries entries = some s) (k : Key) :
    (∀ e, entries k.name = some e → k.Fits e) ∧
      s.value? k = (entries k.name <|> default.value? k) := by
  obtain ⟨url, hurl, made⟩ := Option.bind_eq_some_iff.mp made
  obtain ⟨token, htoken, made⟩ := Option.bind_eq_some_iff.mp made
  obtain ⟨version, hversion, made⟩ := Option.bind_eq_some_iff.mp made
  obtain ⟨request, hrequest, made⟩ := Option.bind_eq_some_iff.mp made
  obtain ⟨lease, hlease, made⟩ := Option.bind_eq_some_iff.mp made
  obtain ⟨suffix, hsuffix, made⟩ := Option.bind_eq_some_iff.mp made
  cases made
  cases k with
  | accountUrl => exact typed_text hurl
  | sasToken => exact typed_optionalText htoken
  | apiVersion => exact typed_text hversion
  | requestTimeout =>
    obtain ⟨fit, same, below⟩ := typed_natural hrequest
    have whole : (UInt64.ofNat request).toNat = request :=
      UInt64.toNat_ofNat_of_lt' (below (by decide))
    exact ⟨fit, by rw [value?, whole]; exact same⟩
  | leaseTimeout =>
    obtain ⟨fit, same, below⟩ := typed_optionalNatural hlease
    refine ⟨fit, Eq.trans ?_ same⟩
    rw [value?, Option.map_map]
    refine Option.map_congr fun n hn => ?_
    have whole : (UInt32.ofNat n).toNat = n := UInt32.toNat_ofNat_of_lt' (below n hn)
    simp only [Function.comp_apply, whole]
  | userAgentSuffix => exact typed_optionalText hsuffix

/-- Values that all fit make settings. -/
theorem exists_ofEntries (fit : ∀ (k : Key) e, entries k.name = some e → k.Fits e) :
    ∃ s, ofEntries entries = some s := by
  have text {k : Key} (fit : ∀ e, entries k.name = some e → ∃ s, e = .text s) (e : Entry)
      (he : entries k.name = some e) : ∃ s, asText e = some s := by
    obtain ⟨s, rfl⟩ := fit e he
    exact ⟨s, rfl⟩
  have natural {k : Key} (bound : Nat)
      (fit : ∀ e, entries k.name = some e → ∃ n : Nat, n < bound ∧ e = .integer n) (e : Entry)
      (he : entries k.name = some e) : ∃ n, asNatural bound e = some n := by
    obtain ⟨n, below, rfl⟩ := fit e he
    exact ⟨n, asNatural_eq_some.mpr ⟨below, rfl⟩⟩
  have optional {α : Type} {read : Entry → Option α} {k : Key}
      (fit : ∀ e, entries k.name = some e → ∃ a, read e = some a) (e : Entry)
      (he : entries k.name = some e) : ∃ a, (read e).map some = some a := by
    obtain ⟨a, ha⟩ := fit e he
    exact ⟨some a, by rw [ha, Option.map_some]⟩
  obtain ⟨url, hurl⟩ := typed_some default.accountUrl (text (fit .accountUrl))
  obtain ⟨token, htoken⟩ := typed_some none (optional (text (fit .sasToken)))
  obtain ⟨version, hversion⟩ := typed_some default.apiVersion (text (fit .apiVersion))
  obtain ⟨request, hrequest⟩ := typed_some default.requestTimeout.toNat
    (natural UInt64.size (fit .requestTimeout))
  obtain ⟨lease, hlease⟩ := typed_some none
    (optional (natural UInt32.size (fit .leaseTimeout)))
  obtain ⟨suffix, hsuffix⟩ := typed_some none (optional (text (fit .userAgentSuffix)))
  simp only [Key.name] at hurl htoken hversion hrequest hlease hsuffix
  simp only [ofEntries, hurl, htoken, hversion, hrequest, hlease, hsuffix, Option.bind_eq_bind,
    Option.bind_some]
  exact ⟨_, rfl⟩

theorem settingOf?_variableName (k : Key) :
    Environment.settingOf? k.variableName = some [k.name.toList] := by
  cases k <;> decide +kernel

/-- An environment that assigns texts to the variables of some settings. Any other variable names
nothing that belongs to a setting. -/
structure Assigns (texts : Key → Option String) (environment : List (String × String)) :
    Prop where
  assigned : ∀ k text, texts k = some text ↔ (k.variableName, text) ∈ environment
  others : ∀ name text, (name, text) ∈ environment → ∀ (k : Key) inner,
    Environment.settingOf? name = some (k.name.toList :: inner) → name = k.variableName

variable {texts : Key → Option String} {environment : List (String × String)}

def given (k : Key) (v : String × String) : Option Entry :=
  if v.1 = k.variableName then some (Environment.entryOf v.2) else none

theorem lookup_eq_findSome? (assigns : Assigns texts environment) (k : Key) :
    Environment.lookup environment k.name = environment.reverse.findSome? (given k) := by
  unfold Environment.lookup
  rw [← List.head?_filterMap, ← List.head?_filterMap]
  congr 1
  refine List.filterMap_congr fun (name, text) mem => ?_
  have others := assigns.others name text (List.mem_reverse.mp mem) k
  by_cases own : name = k.variableName
  · subst own
    simp [settingOf?_variableName, given]
  · simp only [given, own, if_false]
    split
    · rename_i key inner named
      have : key ≠ k.name.toList := by
        rintro rfl
        exact own (others inner named)
      simp [this]
    · rfl

/-- The value of a setting in the environment is the one of its variable. -/
theorem lookup_eq (assigns : Assigns texts environment) (k : Key) :
    Environment.lookup environment k.name = (texts k).map Environment.entryOf := by
  rw [lookup_eq_findSome? assigns]
  cases found : environment.reverse.findSome? (given k) with
  | none =>
    cases assigned : texts k with
    | none => rfl
    | some text =>
      have mem : (k.variableName, text) ∈ environment.reverse :=
        List.mem_reverse.mpr ((assigns.assigned k text).mp assigned)
      have nothing := List.findSome?_eq_none_iff.mp found _ mem
      simp [given] at nothing
  | some e =>
    obtain ⟨⟨name, text⟩, mem, gives⟩ := List.exists_of_findSome?_eq_some found
    obtain ⟨rfl, rfl⟩ : name = k.variableName ∧ Environment.entryOf text = e := by
      simpa [given] using gives
    rw [(assigns.assigned k text).mpr (List.mem_reverse.mp mem), Option.map_some]

def fileEntries : Option String → Option Toml.Entries
  | none => some []
  | some text => Toml.read? text

def counted (environment : List (String × String)) (entries : Toml.Entries) (k : Key) :
    Option Entry :=
  Environment.lookup environment k.name <|> (entries.lookup k.name).map Entry.ofNode

theorem read?_eq (file : Option String) (environment : List (String × String)) :
    read? file environment = (fileEntries file).bind fun entries =>
      ofEntries fun setting => Environment.lookup environment setting <|>
        (entries.lookup setting).map Entry.ofNode := by
  cases file <;> rfl

/-- If the values that count fit, each setting has its own. -/
theorem load_of_fits {file : Option String} {entries : Toml.Entries}
    (opened : fileEntries file = some entries)
    (fit : ∀ k e, counted environment entries k = some e → k.Fits e) :
    ∃ s, load file environment = (s, false) ∧
      ∀ k, s.value? k = (counted environment entries k <|> default.value? k) := by
  have read := read?_eq file environment
  rw [opened, Option.bind_some] at read
  obtain ⟨s, made⟩ : ∃ s, ofEntries (fun setting => Environment.lookup environment setting <|>
      (entries.lookup setting).map Entry.ofNode) = some s := exists_ofEntries fit
  exact ⟨s, by simp only [load, read, made], fun k => (ofEntries_eq_some made k).2⟩

/-- If the file cannot be read or a value that counts does not fit, all settings have their
defaults. -/
theorem load_of_unfit {file : Option String} (unfit : ∀ entries, fileEntries file = some entries →
    ∃ k e, counted environment entries k = some e ∧ ¬ k.Fits e) :
    load file environment = (default, true) := by
  have none : read? file environment = none := by
    rw [read?_eq]
    refine Option.eq_none_iff_forall_not_mem.mpr fun s made => ?_
    obtain ⟨entries, opened, made⟩ := Option.bind_eq_some_iff.mp made
    obtain ⟨k, e, counts, bad⟩ := unfit entries opened
    exact bad ((ofEntries_eq_some made k).1 e counts)
  simp only [load, none]

/-- The value of the variable of a setting, or else that of the file. -/
def layered (texts : Key → Option String) (entries : Toml.Entries) (k : Key) : Option Entry :=
  (texts k).map Environment.entryOf <|> (entries.lookup k.name).map Entry.ofNode

theorem counted_eq (assigns : Assigns texts environment) (entries : Toml.Entries) (k : Key) :
    counted environment entries k = layered texts entries k := by
  rw [counted, lookup_eq assigns, layered]

/-- If the file can be read and the values that count fit, then each setting has its value, or else
its default. Otherwise all have their defaults, with a warning. -/
theorem load_layers (file : Option String) (assigns : Assigns texts environment) :
    (∀ entries, fileEntries file = some entries →
      (∀ k e, layered texts entries k = some e → k.Fits e) →
      ∃ s, load file environment = (s, false) ∧
        ∀ k, s.value? k = (layered texts entries k <|> default.value? k)) ∧
    ((∀ entries, fileEntries file = some entries →
        ∃ k e, layered texts entries k = some e ∧ ¬ k.Fits e) →
      load file environment = (default, true)) := by
  simp only [← counted_eq assigns]
  exact ⟨fun entries opened fit => load_of_fits opened fit, load_of_unfit⟩

def timedOnly (text : String) : Key → Option String
  | .requestTimeout => some text
  | _ => none

theorem assigns_timedOnly (text : String) : Assigns (timedOnly text)
    [("HOME", "/root"), ("FILESHARE_REQUEST_TIMEOUT_SECS", text),
      ("FILESHARE_RETRIES", "many")] where
  assigned k other := by
    have names : k.variableName ≠ "HOME" ∧ k.variableName ≠ "FILESHARE_RETRIES" ∧
        (k.variableName = "FILESHARE_REQUEST_TIMEOUT_SECS" ↔ k = .requestTimeout) := by
      cases k <;> decide +kernel
    simp only [List.mem_cons, Prod.mk.injEq, names, false_and, List.not_mem_nil, or_false, false_or]
    cases k <;> simp [timedOnly, eq_comm]
  others name other mem k inner named := by
    have home : Environment.settingOf? "HOME" = none := by decide +kernel
    have retries : Environment.settingOf? "FILESHARE_RETRIES" = some ["retries".toList] := by
      decide +kernel
    simp only [List.mem_cons, Prod.mk.injEq, List.not_mem_nil, or_false] at mem
    obtain ⟨rfl, -⟩ | ⟨rfl, -⟩ | ⟨rfl, -⟩ := mem
    · cases home.symm.trans named
    · have own := (settingOf?_variableName .requestTimeout).symm.trans named
      cases k <;> first | rfl | simp [Key.name] at own
    · have own := retries.symm.trans named
      cases k <;> simp [Key.name] at own

/-- A timeout in the file that is no number does no harm when a variable has one. -/
theorem load_overridden :
    load (some "request_timeout_secs = \"soon\"\nretries = 3\n")
      [("HOME", "/root"), ("FILESHARE_REQUEST_TIMEOUT_SECS", "45"), ("FILESHARE_RETRIES", "many")] =
      ({ default with requestTimeout := 45 }, false) := by
  have opens : (fileEntries (some "request_timeout_secs = \"soon\"\nretries = 3\n")).isSome := by
    decide +kernel
  have counts (k : Key) : layered (timedOnly "45") ((fileEntries _).get opens) k =
      if k = .requestTimeout then some (.integer 45) else none := by
    cases k <;> decide +kernel +revert
  obtain ⟨s, loaded, values⟩ := (load_layers (some _) (assigns_timedOnly "45")).1 _
    (Option.some_get opens).symm fun k e he => by
      rw [counts] at he
      cases k with
      | requestTimeout => exact ⟨45, by decide, (Option.some.inj he).symm⟩
      | _ => cases he
  rw [loaded]
  congr 1
  refine eq_of_values fun k => ?_
  rw [values, counts]
  cases k <;> rfl

end FileLease.Settings
