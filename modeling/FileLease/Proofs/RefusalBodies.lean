import FileLease.Proofs.FoundPieces
import FileLease.Proofs.RefusalCodes
import FileLease.Proofs.TagPlaces

/-!
# Bodies of refusals

A body holds the code and the message of a refusal as two elements among others. They are read from
it as they were written, but for blanks at their ends, wherever they stand among the others.
-/
namespace FileLease.Http
open Text

def messageElement : List Char := ['M', 'e', 's', 's', 'a', 'g', 'e']
def errorElement : List Char := ['E', 'r', 'r', 'o', 'r']

/-- An element with nothing but text in it, and the text between it and the next tag. -/
structure Leaf where
  name : List Char
  text : List Char
  gap : List Char

def Tagged (name : List Char) : Prop :=
  '<' ∉ name ∧ '>' ∉ name

instance (name : List Char) : Decidable (Tagged name) :=
  inferInstanceAs (Decidable (_ ∧ _))

structure Leaf.Sound (leaf : Leaf) : Prop where
  name : Tagged leaf.name
  text : '<' ∉ leaf.text
  gap : '<' ∉ leaf.gap

instance (leaf : Leaf) : Decidable leaf.Sound :=
  decidable_of_iff (Tagged leaf.name ∧ '<' ∉ leaf.text ∧ '<' ∉ leaf.gap)
    ⟨fun ⟨name, text, gap⟩ => ⟨name, text, gap⟩, fun h => ⟨h.name, h.text, h.gap⟩⟩

def Leaf.written (leaf : Leaf) : List Char :=
  openTag leaf.name ++ (leaf.text ++ (closeTag leaf.name ++ leaf.gap))

/-- The elements of an error, what is declared before it, and the texts at the front of the elements
and behind the error. -/
structure ErrorBody where
  declaration : List Char
  lead : List Char
  leaves : List Leaf
  rest : List Char

namespace ErrorBody

def written (e : ErrorBody) : List Char :=
  e.declaration ++ (openTag errorElement ++ (e.lead ++ (e.leaves.flatMap Leaf.written ++
    (closeTag errorElement ++ e.rest))))

structure Sound (e : ErrorBody) : Prop where
  lead : '<' ∉ e.lead
  leaves : ∀ leaf ∈ e.leaves, leaf.Sound

def textOf? (e : ErrorBody) (name : List Char) : Option (List Char) :=
  (e.leaves.find? (·.name = name)).map (·.text)

/-- A code and a message stand among the elements, in either order, and nothing before the error
looks like one of them. -/
structure Holds (e : ErrorBody) (code message : List Char) : Prop where
  sound : e.Sound
  declared : ¬ openTag codeElement <:+: e.declaration ∧ ¬ openTag messageElement <:+: e.declaration
  code : e.textOf? codeElement = some code
  message : e.textOf? messageElement = some message

end ErrorBody

variable {name other before text : List Char}

theorem closeTag_eq_openTag (name : List Char) : closeTag name = openTag ('/' :: name) := rfl

/-- A tag is not another one, whatever comes behind that. -/
theorem not_infix_tag (tagged : Tagged name) (tagged' : Tagged other) (ne : name ≠ other)
    (plain : '<' ∉ text) (absent : ¬ openTag name <:+: before) :
    ¬ openTag name <:+: before ++ (openTag other ++ text) := by
  have apart : ¬ name ++ ['>'] <+: other ++ '>' :: text := by
    rintro ⟨rest, same⟩
    rw [List.append_assoc, List.singleton_append] at same
    have fronts := congrArg (List.takeWhile (· ≠ '>')) same
    rw [takeWhile_run (run_of_not_mem tagged.2) rfl,
      takeWhile_run (run_of_not_mem tagged'.2) rfl] at fronts
    exact ne fronts
  have whole : openTag other ++ text = '<' :: (other ++ '>' :: text) := by simp [openTag]
  rw [openTag_eq] at absent ⊢
  rw [whole]
  exact not_infix_append (by simpa using tagged.1) absent (by simp [tagged'.1, plain]) apart

/-- Neither tag of an element opens one of another name. -/
theorem not_infix_leaf {leaf : Leaf} (tagged : Tagged name) (opens : name.head? ≠ some '/')
    (sound : leaf.Sound) (ne : leaf.name ≠ name) (absent : ¬ openTag name <:+: before) :
    ¬ openTag name <:+: before ++ leaf.written := by
  have tagged' : Tagged ('/' :: leaf.name) := by simp [Tagged, sound.name.1, sound.name.2]
  have closes : name ≠ '/' :: leaf.name := by
    rintro rfl
    exact opens rfl
  have opened := not_infix_tag tagged sound.name ne.symm sound.text absent
  have closed := not_infix_tag tagged tagged' closes sound.gap opened
  rw [← closeTag_eq_openTag, List.append_assoc, List.append_assoc] at closed
  exact closed

theorem not_infix_leaves {leaves : List Leaf} (tagged : Tagged name)
    (opens : name.head? ≠ some '/') (sound : ∀ leaf ∈ leaves, leaf.Sound)
    (ne : ∀ leaf ∈ leaves, leaf.name ≠ name) (absent : ¬ openTag name <:+: before) :
    ¬ openTag name <:+: before ++ leaves.flatMap Leaf.written := by
  induction leaves generalizing before with
  | nil => rwa [List.flatMap_nil, List.append_nil]
  | cons leaf leaves ih =>
    rw [List.flatMap_cons, ← List.append_assoc]
    exact ih (fun l h => sound l (.tail _ h)) (fun l h => ne l (.tail _ h))
      (not_infix_leaf tagged opens (sound leaf (.head _)) (ne leaf (.head _)) absent)

/-- What is read from a body for a name is the text of the first element of that name. -/
theorem elementText?_written {e : ErrorBody} (sound : e.Sound) (tagged : Tagged name)
    (opens : name.head? ≠ some '/') (inner : name ≠ errorElement)
    (declared : ¬ openTag name <:+: e.declaration) (held : e.textOf? name = some text) :
    elementText? e.written name = some (strip isBlank text) := by
  obtain ⟨leaf, found, rfl⟩ := Option.map_eq_some_iff.mp held
  obtain ⟨named, front, back, whole, others⟩ := List.find?_eq_some_iff_append.mp found
  obtain rfl : leaf.name = name := of_decide_eq_true named
  have mem (l : Leaf) (h : l ∈ front) : l ∈ e.leaves := whole ▸ List.mem_append_left _ h
  have first : ¬ openTag leaf.name <:+:
      e.declaration ++ (openTag errorElement ++ e.lead) ++ front.flatMap Leaf.written :=
    not_infix_leaves tagged opens (fun l h => sound.leaves l (mem l h))
      (fun l h => by simpa using others l h)
      (not_infix_tag tagged (by decide) inner sound.lead declared)
  have plain : '<' ∉ leaf.text := (sound.leaves leaf (by simp [whole])).text
  have inside : ¬ closeTag leaf.name <:+: leaf.text := fun h =>
    plain (h.subset List.mem_cons_self)
  have read := elementText?_first tagged.1 first inside
    (leaf.gap ++ (back.flatMap Leaf.written ++ (closeTag errorElement ++ e.rest)))
  rw [← read]
  congr 1
  simp [ErrorBody.written, whole, Leaf.written]

variable {body : List Char} {headers : List Header}

theorem refusalCode?_of_element (unnamed : headerText? headers "x-ms-error-code" = none)
    (read : elementText? body codeElement = some text) :
    refusalCode? headers body = if text = [] then none else some (String.ofList text) := by
  rw [refusalCode?_of_body unnamed, read, Option.map_some]
  split
  · rename_i empty
    rw [empty]
    rfl
  · rename_i some
    exact Option.filter_some_pos (by simpa using some)

theorem refusalMessage_of_element (read : elementText? body messageElement = some text)
    (reason : Option String) : refusalMessage body reason = String.ofList text := by
  rw [messageElement] at read
  rw [refusalMessage, read]

theorem refusalMessage_of_lacks (lacks : Lacks body messageElement) (reason : Option String) :
    refusalMessage body reason = if strip isBlank body = [] then reason.getD "request rejected"
      else String.ofList (strip isBlank body) := by
  have none := elementText?_eq_none_iff.mpr lacks
  rw [messageElement] at none
  simp only [refusalMessage, none, List.isEmpty_iff]

/-- An element is read as the text between the first tag that opens it and the first behind that
which closes it, without blanks at its ends, and not at all if there is no such tag. In bytes, this
text begins and ends between characters of the body. So the code and the message of an error are
read as they are, but for blanks at their ends. A body without a message is the message itself, or
if it is blank, the words for the status are. -/
theorem refusal_texts_read (body name : String) :
    (∀ text, elementText? body.toList name.toList = some text ↔
      Element body.toList name.toList text) ∧
    (elementText? body.toList name.toList = none ↔ Lacks body.toList name.toList) ∧
    (∀ start, Begins body name start → String.Pos.Raw.IsValid body ⟨start⟩ ∧
      ∀ stop, EndsFrom body name start stop →
        start ≤ stop ∧ String.Pos.Raw.IsValid body ⟨stop⟩) ∧
    (∀ text, elementText? body.toList name.toList = some text ↔ ∃ start stop inside,
      Begins body name start ∧ EndsFrom body name start stop ∧
        bytesOf inside = ((bytesOf body).drop start).take (stop - start) ∧
        text = strip isBlank inside.toList) ∧
    (∀ (e : ErrorBody) (code message : List Char), body.toList = e.written → e.Holds code message →
      elementText? body.toList codeElement = some (strip isBlank code) ∧
      (∀ headers, headerText? headers "x-ms-error-code" = none →
        refusalCode? headers body.toList =
          if strip isBlank code = [] then none else some (String.ofList (strip isBlank code))) ∧
      ∀ reason, refusalMessage body.toList reason = String.ofList (strip isBlank message)) ∧
    (Lacks body.toList messageElement → ∀ reason, refusalMessage body.toList reason =
      if strip isBlank body.toList = [] then reason.getD "request rejected"
      else String.ofList (strip isBlank body.toList)) := by
  refine ⟨fun _ => elementText?_eq_some_iff, elementText?_eq_none_iff,
    fun start begins => ⟨begins.isValid, fun stop ends => ends.isValid begins⟩,
    fun _ => elementText?_eq_some_iff_places, fun e code message written holds => ?_,
    refusalMessage_of_lacks⟩
  have coded : elementText? body.toList codeElement = some (strip isBlank code) := by
    rw [written]
    exact elementText?_written holds.sound (by decide) (by decide) (by decide) holds.declared.1
      holds.code
  have told : elementText? body.toList messageElement = some (strip isBlank message) := by
    rw [written]
    exact elementText?_written holds.sound (by decide) (by decide) (by decide) holds.declared.2
      holds.message
  exact ⟨coded, fun headers unnamed => refusalCode?_of_element unnamed coded,
    refusalMessage_of_element told⟩

/-- A body in which the message stands before the code, with another element between them. -/
def lateBody : ErrorBody where
  declaration := "<?xml version=\"1.0\"?>\n".toList
  lead := "\n  ".toList
  leaves := [⟨messageElement, "\n  Später wieder. ".toList, []⟩,
    ⟨"Id".toList, "Code>7".toList, ['\n']⟩, ⟨codeElement, "LeaseIdMissing ".toList, []⟩]
  rest := "\n<Code>LeaseLost</Code>".toList

/-- Code and message of that body; and a body with an end tag alone, the words for the status being
those that count for a blank one. -/
theorem refusal_texts_read_of_late_code :
    lateBody.Holds "LeaseIdMissing ".toList "\n  Später wieder. ".toList ∧
    refusalCode? [] lateBody.written = some "LeaseIdMissing" ∧
    refusalMessage lateBody.written none = "Später wieder." ∧
    Lacks "x</Message> ".toList messageElement ∧
    refusalMessage "x</Message> ".toList (some "Conflict") = "x</Message>" ∧
    Lacks "\n".toList messageElement ∧
    refusalMessage "\n".toList (some "Conflict") = "Conflict" := by
  have holds : lateBody.Holds "LeaseIdMissing ".toList "\n  Später wieder. ".toList :=
    ⟨⟨by decide, by decide⟩, by decide, by decide, by decide⟩
  have whole : (String.ofList lateBody.written).toList = lateBody.written := String.toList_ofList
  obtain ⟨-, -, -, -, read, -⟩ := refusal_texts_read (String.ofList lateBody.written) "Code"
  obtain ⟨-, code, message⟩ := read lateBody _ _ whole holds
  rw [whole] at code message
  have ended : Lacks "x</Message> ".toList messageElement := .inl (by decide)
  have blank : Lacks "\n".toList messageElement := .inl (by decide)
  refine ⟨holds, ?_, ?_, ended, ?_, blank, ?_⟩
  · rw [code [] rfl]
    decide +kernel
  · rw [message none]
    decide +kernel
  · rw [(refusal_texts_read "x</Message> " "Message").2.2.2.2.2 ended]
    decide +kernel
  · rw [(refusal_texts_read "\n" "Message").2.2.2.2.2 blank]
    decide +kernel

end FileLease.Http
