import FileLease.Proofs.ElementTexts
import FileLease.Proofs.RedirectChains

/-!
# Codes of refusals

The service names the code of a refusal in a header or in the body. The code of a refusal is the
first of them that is not empty, unless the header is there and empty: then the body does not count.
-/
namespace FileLease.Http
open Text

def codeElement : List Char := ['C', 'o', 'd', 'e']

/-- A header that does not name a code: there is none that is a text, or it is empty. -/
def Codeless (headers : List Header) : Prop :=
  ∀ text, headerText? headers "x-ms-error-code" = some text → text = ""

/-- The code that headers and the text of a body name: that of the header, or else that of the
element in the body. There is none only if neither names one. -/
def NamesCode (headers : List Header) (body : List Char) : Option String → Prop
  | some code => code ≠ "" ∧ (headerText? headers "x-ms-error-code" = some code ∨
      Codeless headers ∧ Element body codeElement code.toList)
  | none => Codeless headers ∧ ∀ text, Element body codeElement text → text = []

/-- The body names a code, and the header is there but empty. -/
def Overlooked (headers : List Header) (body : List Char) : Prop :=
  headerText? headers "x-ms-error-code" = some "" ∧
    ∃ text, text ≠ [] ∧ Element body codeElement text

variable {headers : List Header} {body : List Char} {text : String}

/-- Headers and body name one code, or none. -/
theorem NamesCode.unique {code code' : Option String} (h : NamesCode headers body code)
    (h' : NamesCode headers body code') : code = code' := by
  cases code with
  | none =>
    cases code' with
    | none => rfl
    | some code' =>
      obtain ⟨ne, header | ⟨-, element⟩⟩ := h'
      · exact absurd (h.1 code' header) ne
      · exact absurd (String.toList_eq_nil_iff.mp (h.2 _ element)) ne
  | some code =>
    obtain ⟨ne, named⟩ := h
    cases code' with
    | none =>
      rcases named with header | ⟨-, element⟩
      · exact absurd (h'.1 code header) ne
      · exact absurd (String.toList_eq_nil_iff.mp (h'.2 _ element)) ne
    | some code' =>
      obtain ⟨ne', named'⟩ := h'
      rcases named with header | ⟨codeless, element⟩
      · rcases named' with header' | ⟨codeless, -⟩
        · exact header.symm.trans header'
        · exact absurd (codeless code header) ne
      · rcases named' with header' | ⟨-, element'⟩
        · exact absurd (codeless code' header') ne'
        · rw [String.toList_injective (element.unique element')]

theorem refusalCode?_of_header (h : headerText? headers "x-ms-error-code" = some text)
    (ne : text ≠ "") (body : List Char) : refusalCode? headers body = some text := by
  rw [refusalCode?, errorCodeName, h]
  exact Option.filter_some_pos (by simp [ne])

theorem refusalCode?_of_empty (h : headerText? headers "x-ms-error-code" = some "")
    (body : List Char) : refusalCode? headers body = none := by
  rw [refusalCode?, errorCodeName, h]
  rfl

theorem refusalCode?_of_body (h : headerText? headers "x-ms-error-code" = none)
    (body : List Char) : refusalCode? headers body =
      ((elementText? body codeElement).map String.ofList).filter (! ·.isEmpty) := by
  rw [refusalCode?, errorCodeName, h]
  rfl

/-- Without a header the body names the code. -/
theorem namesCode_of_body (h : headerText? headers "x-ms-error-code" = none) :
    NamesCode headers body (refusalCode? headers body) := by
  have codeless : Codeless headers := fun text ht => by
    rw [h] at ht
    cases ht
  rw [refusalCode?_of_body h]
  cases found : elementText? body codeElement with
  | none =>
    refine ⟨codeless, fun text element => ?_⟩
    rw [elementText?_eq_some_iff.mpr element] at found
    cases found
  | some code =>
    have element := elementText?_eq_some_iff.mp found
    by_cases empty : code = []
    · rw [empty] at found ⊢
      refine ⟨codeless, fun text element => ?_⟩
      rw [elementText?_eq_some_iff.mpr element] at found
      exact Option.some.inj found
    · have ne : String.ofList code ≠ "" := fun same => empty (String.ofList_injective same)
      rw [Option.map_some, Option.filter_some_pos (by simp [ne])]
      exact ⟨ne, .inr ⟨codeless, by rwa [String.toList_ofList]⟩⟩

theorem namesCode_iff :
    NamesCode headers body (refusalCode? headers body) ↔ ¬ Overlooked headers body := by
  cases h : headerText? headers "x-ms-error-code" with
  | none =>
    refine iff_of_true (namesCode_of_body h) fun overlooked => ?_
    cases h.symm.trans overlooked.1
  | some text =>
    by_cases empty : text = ""
    · rw [empty] at h
      have codeless : Codeless headers := fun text ht => (Option.some.inj (h.symm.trans ht)).symm
      rw [refusalCode?_of_empty h]
      simp only [NamesCode, Overlooked, codeless, h, true_and, not_exists, not_and]
      exact forall_congr' fun text => not_imp_not.symm
    · rw [refusalCode?_of_header h empty]
      refine iff_of_true ⟨empty, .inl h⟩ fun overlooked => ?_
      exact empty (Option.some.inj (h.symm.trans overlooked.1))

variable {c : Client} {call : Call} {n n' : Network} {reply : Reply}

/-- The reply that answers a call, at the end of the redirects of its request. -/
def Client.Hears (c : Client) (call : Call) (n : Network) (reply : Reply) (n' : Network) : Prop :=
  ∃ request, c.request? call (n.requestId n.sent) = some request ∧
    { n with sent := n.sent + 1 }.exchange (c.limit call) maxRedirects request = (.ok reply, n')

theorem transport_refused (heard : c.Hears call n reply n') (refused : reply.isSuccess = false) :
    c.transport call n = (.error reply.refusal, n') := by
  obtain ⟨request, made, answered⟩ := heard
  simp only [Client.transport, Client.send, made, answered, refused]
  rfl

/-- A call that is answered without success fails with the status of the reply, and with the code
that its header or its body names, exactly if it is not the case that the header is empty and the
body names a code; otherwise it has no code. -/
theorem refused_code_iff (heard : c.Hears call n reply n') (refused : reply.isSuccess = false) :
    ∃ code message, c.transport call n = (.error (.refused reply.status code message), n') ∧
      (NamesCode reply.headers reply.text code ↔ ¬ Overlooked reply.headers reply.text) ∧
      (Overlooked reply.headers reply.text → code = none) :=
  ⟨refusalCode? reply.headers reply.text, refusalMessage reply.text (reason? reply.status),
    transport_refused heard refused, namesCode_iff, fun overlooked =>
      refusalCode?_of_empty overlooked.1 reply.text⟩

def Network.answering (reply : Reply) : Network :=
  ⟨.serving [some reply], [], 0, 0, fun _ => "n"⟩

def coding (header : Header) : Reply :=
  ⟨409, [header], bytesOf "<Error><Code> LeaseIdMissing\n</Code></Error>", true⟩

theorem element_coding (header : Header) (unlabelled : header.named "Content-Type" = false) :
    Element (coding header).text codeElement "LeaseIdMissing".toList := by
  have text : (coding header).text = "<Error><Code> LeaseIdMissing\n</Code></Error>".toList := by
    have absent : headerText? [header] "Content-Type" = none := by
      simp [headerText?, unlabelled]
    rw [Reply.text, coding, if_pos rfl, absent]
    show decodeBody none (bytesOf "<Error><Code> LeaseIdMissing\n</Code></Error>") = _
    decide +kernel
  rw [text]
  exact elementText?_eq_some_iff.mp (by decide +kernel)

theorem hears_coding (header : Header) : ∃ after, Client.loopback.Hears
    (.release ⟨"share", "f"⟩ "x" none) (.answering (coding header)) (coding header) after := by
  have makes : (Client.loopback.request? (.release ⟨"share", "f"⟩ "x" none) "n").isSome := by
    decide +kernel
  obtain ⟨request, made⟩ := Option.isSome_iff_exists.mp makes
  have served (sent : Nat) : { Network.answering (coding header) with sent }.peer =
      .serving [some (coding header)] := rfl
  exact ⟨_, request, made, exchange_reply (served _) (by decide : 409 ∉ _) _ _ request⟩

/-- The header is not a text: the code is that of the body. -/
theorem refused_code_of_body :
    let c := Client.loopback
    let reply := coding ⟨"x-ms-error-code", [0xC3, 0xA4]⟩
    let call : Call := .release ⟨"share", "f"⟩ "x" none
    ∃ after message, c.Hears call (.answering reply) reply after ∧ reply.isSuccess = false ∧
      c.transport call (.answering reply) =
        (.error (.refused 409 (some "LeaseIdMissing") message), after) := by
  intro c reply call
  obtain ⟨after, heard⟩ := hears_coding ⟨"x-ms-error-code", [0xC3, 0xA4]⟩
  have refused : reply.isSuccess = false := rfl
  have unreadable : headerText? reply.headers "x-ms-error-code" = none := by decide
  have element : Element reply.text codeElement "LeaseIdMissing".toList :=
    element_coding _ (by decide)
  obtain ⟨code, message, failed, named, -⟩ := refused_code_iff heard refused
  have named : NamesCode reply.headers reply.text code := named.mpr fun overlooked => by
    cases unreadable.symm.trans overlooked.1
  have own : NamesCode reply.headers reply.text (some "LeaseIdMissing") :=
    ⟨by decide, .inr ⟨fun text ht => (by cases unreadable.symm.trans ht), element⟩⟩
  rw [named.unique own] at failed
  exact ⟨after, message, heard, refused, failed⟩

/-- The header is empty: the code that the body names is lost. -/
theorem refused_without_code :
    let reply := coding (.ofText "x-ms-error-code" "")
    ∃ c after message,
      Client.ofSettings { Settings.default with accountUrl := "http://127.0.0.1" } = .ok c ∧
      c.transport (.release ⟨"share", "f"⟩ "x" none) (.answering reply) =
        (.error (.refused 409 none message), after) ∧
      NamesCode reply.headers reply.text (some "LeaseIdMissing") ∧
      ¬ NamesCode reply.headers reply.text none := by
  intro reply
  obtain ⟨after, heard⟩ := hears_coding (.ofText "x-ms-error-code" "")
  have empty : headerText? reply.headers "x-ms-error-code" = some "" := by decide +kernel
  have element : Element reply.text codeElement "LeaseIdMissing".toList :=
    element_coding _ (by decide)
  have own : NamesCode reply.headers reply.text (some "LeaseIdMissing") :=
    ⟨by decide, .inr ⟨fun text ht => (Option.some.inj (empty.symm.trans ht)).symm, element⟩⟩
  have failed := transport_refused heard rfl
  rw [Reply.refusal, refusalCode?_of_empty empty] at failed
  refine ⟨_, after, _, ofSettings_loopback, failed, own, fun none => ?_⟩
  cases own.unique none

end FileLease.Http
