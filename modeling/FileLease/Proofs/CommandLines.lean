import FileLease.Command
import FileLease.Proofs.NumeralWidths

/-!
# Command lines that say a command

Every command has a line that says it, whatever its values are: options and their values stand in
one word, and arguments behind two hyphens.
-/
namespace FileLease.Command
open Text

def Nameable (name : String) : Prop :=
  '=' ∉ name.toList ∧ name ≠ "" ∧ name ≠ "help"

instance (name : String) : Decidable (Nameable name) :=
  inferInstanceAs (Decidable (_ ∧ _ ∧ _))

theorem nameable_formOf (name : String) :
    (∀ option ∈ (formOf name).options, Nameable option) ∧
      ∀ flag ∈ (formOf name).flags, Nameable flag := by
  unfold formOf
  split <;> decide

def optionWord (option : String × String) : String :=
  "--" ++ option.1 ++ "=" ++ option.2

def flagWord (name : String) : String :=
  "--" ++ name

namespace Found

def words (found : Found) : List String :=
  found.options.map optionWord ++ (found.flags.map flagWord ++ "--" :: found.arguments)

/-- What a command takes, and nothing twice; timeouts are numbers. -/
structure Fits (form : Form) (found : Found) : Prop where
  options : ∀ option ∈ found.options, option.1 ∈ form.options
  timeouts : ∀ option ∈ found.options, option.1 = "timeout" →
    (readUInt32? option.2.toList).isSome
  optionsOnce : (found.options.map Prod.fst).Nodup
  flags : ∀ flag ∈ found.flags, flag ∈ form.flags
  flagsOnce : found.flags.Nodup
  arguments : found.arguments.length ≤ form.arguments

end Found

variable {form : Form} (found : Found)

theorem letters_hyphens (s : String) : ("--" ++ s).toList = '-' :: '-' :: s.toList := by
  simp

theorem hyphens_ne {s t : String} (ne : s ≠ t) : "--" ++ s ≠ "--" ++ t := by
  intro same
  have letters := congrArg String.toList same
  rw [letters_hyphens, letters_hyphens] at letters
  simp only [List.cons.injEq, true_and] at letters
  exact ne (String.toList_injective letters)

theorem isHyphened_hyphens (s : String) : isHyphened ("--" ++ s) = true := by
  have ne : "--" ++ s ≠ "-" := by
    intro same
    have letters := congrArg String.toList same
    rw [letters_hyphens] at letters
    simp at letters
  simp only [isHyphened, letters_hyphens, List.head?_cons, ne, ne_eq, not_false_eq_true,
    decide_true, Bool.and_self]

/-- The characters before the first equals sign, and those from there. -/
theorem takeWhile_plain {name : List Char} (plain : '=' ∉ name) (rest : List Char) :
    (name ++ '=' :: rest).takeWhile (fun c => !decide (c = '=')) = name ∧
      (name ++ '=' :: rest).dropWhile (fun c => !decide (c = '=')) = '=' :: rest ∧
      name.takeWhile (fun c => !decide (c = '=')) = name := by
  have apart (c : Char) (hc : c ∈ name) : (!decide (c = '=')) = true := by
    rw [Bool.not_eq_true', decide_eq_false_iff_not]
    rintro rfl
    exact plain hc
  refine ⟨?_, ?_, ?_⟩
  · rw [List.takeWhile_append_of_pos apart]
    simp
  · rw [List.dropWhile_append_of_pos apart]
    simp
  · rw [← List.append_nil name, List.takeWhile_append_of_pos apart, List.takeWhile_nil]

theorem scan_option {name value : String} (nameable : Nameable name) (known : name ∈ form.options)
    (rest : List String) : scan form found (optionWord (name, value) :: rest) =
      (found.addOption name value).bind fun found => scan form found rest := by
  have letters : (name ++ "=" ++ value).toList = name.toList ++ '=' :: value.toList := by simp
  obtain ⟨before, after, -⟩ := takeWhile_plain nameable.1 value.toList
  -- the words that mean something else have no equals sign
  have other (text : String) (ht : '=' ∉ text.toList) :
      "--" ++ (name ++ "=" ++ value) ≠ "--" ++ text := by
    refine hyphens_ne ?_
    rintro rfl
    exact ht (by simp)
  have word : optionWord (name, value) = "--" ++ (name ++ "=" ++ value) := by
    simp [optionWord, String.append_assoc]
  have notHelp : "--" ++ (name ++ "=" ++ value) ≠ "--help" := other "help" (by decide)
  rw [word, scan.eq_def]
  split
  next heq => cases heq
  next heq => exact absurd (List.cons.inj heq).1 (other "" (by decide))
  next heq =>
    cases heq
    simp only [isHyphened_hyphens, letters_hyphens, letters, notHelp]
    simp [before, after, known]

theorem scan_flag {name : String} (nameable : Nameable name) (known : name ∈ form.flags)
    (rest : List String) : scan form found (flagWord name :: rest) =
      (found.addFlag name).bind fun found => scan form found rest := by
  obtain ⟨plain, named, other⟩ := nameable
  obtain ⟨-, -, whole⟩ := takeWhile_plain plain []
  have notHelp : "--" ++ name ≠ "--help" := hyphens_ne (t := "help") other
  rw [flagWord, scan.eq_def]
  split
  next heq => cases heq
  next heq => exact absurd (List.cons.inj heq).1 (hyphens_ne (t := "") named)
  next heq =>
    cases heq
    simp only [isHyphened_hyphens, letters_hyphens, notHelp]
    simp [whole, plain, known]

theorem addOption_eq_ok {name value : String} (fresh : name ∉ found.options.map Prod.fst)
    (readable : name = "timeout" → (readUInt32? value.toList).isSome) :
    found.addOption name value =
      .ok { found with options := found.options ++ [(name, value)] } := by
  have unnamed : found.options.lookup name = none := by
    rw [List.lookup_eq_none_iff]
    intro option mem
    rw [bne_iff_ne]
    rintro rfl
    exact fresh (List.mem_map_of_mem mem)
  have number : ¬ (name = "timeout" ∧ (readUInt32? value.toList).isNone) := by
    rintro ⟨timeout, unread⟩
    rw [← Option.not_isSome, readable timeout] at unread
    cases unread
  simp only [Found.addOption, unnamed, Option.isSome_none, Bool.false_eq_true, false_or, number,
    if_false]

theorem addFlag_eq_ok {name : String} (fresh : name ∉ found.flags) :
    found.addFlag name = .ok { found with flags := found.flags ++ [name] } := by
  rw [Found.addFlag, if_neg fresh]

/-- Options are found one by one, each for the first time. -/
theorem scan_options (nameable : ∀ name ∈ form.options, Nameable name)
    {given : List (String × String)} (known : ∀ option ∈ given, option.1 ∈ form.options)
    (readable : ∀ option ∈ given, option.1 = "timeout" → (readUInt32? option.2.toList).isSome)
    (once : ((found.options ++ given).map Prod.fst).Nodup) (rest : List String) :
    scan form found (given.map optionWord ++ rest) =
      scan form { found with options := found.options ++ given } rest := by
  induction given generalizing found with
  | nil => rw [List.map_nil, List.nil_append, List.append_nil]
  | cons option given ih =>
    have fresh : option.1 ∉ found.options.map Prod.fst := by
      intro mem
      rw [List.map_append, List.nodup_append] at once
      exact once.2.2 option.1 mem option.1 List.mem_cons_self rfl
    rw [List.map_cons, List.cons_append,
      scan_option found (nameable _ (known option List.mem_cons_self))
        (known option List.mem_cons_self),
      addOption_eq_ok found fresh (readable option List.mem_cons_self), Except.bind]
    have others := ih { found with options := found.options ++ [option] }
      (fun other mem => known other (List.mem_cons_of_mem _ mem))
      (fun other mem => readable other (List.mem_cons_of_mem _ mem))
      (by rwa [List.append_assoc, List.singleton_append])
    rwa [List.append_assoc, List.singleton_append] at others

theorem scan_flags (nameable : ∀ name ∈ form.flags, Nameable name) {given : List String}
    (known : ∀ flag ∈ given, flag ∈ form.flags) (once : (found.flags ++ given).Nodup)
    (rest : List String) : scan form found (given.map flagWord ++ rest) =
      scan form { found with flags := found.flags ++ given } rest := by
  induction given generalizing found with
  | nil => rw [List.map_nil, List.nil_append, List.append_nil]
  | cons flag given ih =>
    have fresh : flag ∉ found.flags := by
      intro mem
      rw [List.nodup_append] at once
      exact once.2.2 flag mem flag List.mem_cons_self rfl
    rw [List.map_cons, List.cons_append,
      scan_flag found (nameable _ (known flag List.mem_cons_self)) (known flag List.mem_cons_self),
      addFlag_eq_ok found fresh, Except.bind]
    have others := ih { found with flags := found.flags ++ [flag] }
      (fun other mem => known other (List.mem_cons_of_mem _ mem))
      (by rwa [List.append_assoc, List.singleton_append])
    rwa [List.append_assoc, List.singleton_append] at others

theorem foldlM_addArgument {given : List String}
    (room : (found.arguments ++ given).length ≤ form.arguments) :
    given.foldlM (fun found word => found.addArgument form word) found =
      .ok { found with arguments := found.arguments ++ given } := by
  induction given generalizing found with
  | nil => rw [List.foldlM_nil, List.append_nil]; rfl
  | cons word given ih =>
    have free : found.arguments.length < form.arguments := by
      rw [List.length_append, List.length_cons] at room
      omega
    rw [List.foldlM_cons, Found.addArgument, if_pos free]
    have others := ih { found with arguments := found.arguments ++ [word] }
      (by rwa [List.append_assoc, List.singleton_append])
    rwa [List.append_assoc, List.singleton_append] at others

variable {found}

/-- What words say is found in them. -/
theorem scan_words (options : ∀ name ∈ form.options, Nameable name)
    (flags : ∀ name ∈ form.flags, Nameable name) (fits : found.Fits form) :
    scan form .empty found.words = .ok found := by
  calc scan form .empty found.words
      = scan form ⟨found.options, [], []⟩
          (found.flags.map flagWord ++ "--" :: found.arguments) :=
        scan_options .empty options fits.options fits.timeouts fits.optionsOnce _
    _ = scan form ⟨found.options, found.flags, []⟩ ("--" :: found.arguments) :=
        scan_flags ⟨found.options, [], []⟩ flags fits.flags fits.flagsOnce _
    _ = .ok found := by
        rw [scan]
        exact foldlM_addArgument ⟨found.options, found.flags, []⟩ fits.arguments

def name : Command → String
  | .acquire .. => "acquire"
  | .release .. => "release"
  | .change .. => "change"
  | .break .. => "break"
  | .config .. => "config"

def timeoutOption (timeout : Option UInt32) : List (String × String) :=
  (timeout.map fun seconds => ("timeout", String.ofList (decimal seconds.toNat))).toList

def given : Command → Found
  | .acquire file leaseId timeout =>
    ⟨(leaseId.map ("lease-id", ·)).toList ++ timeoutOption timeout, [], [file]⟩
  | .release file leaseId timeout => ⟨("lease-id", leaseId) :: timeoutOption timeout, [], [file]⟩
  | .change file leaseId proposed timeout =>
    ⟨("lease-id", leaseId) :: ("proposed-lease-id", proposed) :: timeoutOption timeout, [], [file]⟩
  | .break file timeout => ⟨timeoutOption timeout, [], [file]⟩
  | .config init => ⟨[], if init then ["init"] else [], []⟩

def words (c : Command) : List String :=
  c.name :: c.given.words

theorem fits_given (c : Command) : c.given.Fits (formOf c.name) := by
  cases c with
  | acquire file leaseId timeout =>
    cases leaseId <;> cases timeout <;> constructor <;>
      simp [given, timeoutOption, name, formOf, readUInt32?_decimal]
  | release file leaseId timeout | change file leaseId proposed timeout | «break» file timeout =>
    cases timeout <;> constructor <;>
      simp [given, timeoutOption, name, formOf, readUInt32?_decimal]
  | config init => cases init <;> constructor <;> simp [given, name, formOf]

theorem ofFound_given (c : Command) : ofFound c.name c.given = some c := by
  cases c with
  | acquire file leaseId timeout =>
    cases leaseId <;> cases timeout <;>
      simp [given, timeoutOption, name, ofFound, Found.option?, Found.timeout?, List.lookup_cons,
        readUInt32?_decimal]
  | release file leaseId timeout | change file leaseId proposed timeout | «break» file timeout =>
    cases timeout <;>
      simp [given, timeoutOption, name, ofFound, Found.option?, Found.timeout?, List.lookup_cons,
        readUInt32?_decimal]
  | config init => cases init <;> rfl

theorem name_mem_names (c : Command) : c.name ∈ names := by
  cases c <;> simp [name, names]

/-- No word for a version or for help names a command. -/
theorem plain_names : ∀ name ∈ names, ¬ (name = "--version" ∨ name.toList.take 2 = ['-', 'V']) ∧
    ¬ (name = "--help" ∨ name.toList.take 2 = ['-', 'h']) ∧ name ≠ "help" := by
  decide

/-- A command is read from its words. -/
theorem read_words (c : Command) : read c.words = .run c := by
  obtain ⟨version, help, other⟩ := plain_names c.name c.name_mem_names
  obtain ⟨options, flags⟩ := nameable_formOf c.name
  simp only [words, read, version, help, other, c.name_mem_names, if_true, if_false,
    scan_words options flags c.fits_given, ofFound_given, Option.map_some, Option.getD_some]

example : (release "-f" "a=b" (some 60)).words =
    ["release", "--lease-id=a=b", "--timeout=60", "--", "-f"] := by
  decide +kernel

end FileLease.Command
