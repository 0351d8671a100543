import FileLease.Proofs.CommandLines
import FileLease.Proofs.PrintedToken
import FileLease.Proofs.SnapshotTexts

/-!
# What commands for a lease do and print

A command for a lease does what the operation of a handle does. It prints what the handle knows
then, or what a break told, and nothing if it fails.
-/
namespace FileLease
open Text Http

namespace Http

variable {headers : List Header} {reply : LeaseReply}

/-- The dates of replies are those of the calendar in use. -/
theorem representable_leaseReply (told : leaseReply headers = .ok reply) :
    reply.lastModified.Representable := by
  obtain ⟨etag, -, told⟩ := bind_eq_ok.mp told
  obtain ⟨date, -, told⟩ := bind_eq_ok.mp told
  cases read : Instant.ofRfc2822 date with
  | error e =>
    rw [read] at told
    cases told
  | ok t =>
    rw [read] at told
    cases told
    exact Instant.representable_of_ofRfc2822 read

end Http

namespace Handle

/-- What the headers of a reply tell of an operation, and the handle after it. -/
def hear (h : Handle) (headers : List Header) :
    Operation → Except TransportError (Option UInt32 × Handle)
  | .acquire | .release => (leaseReply headers).map fun reply => (none, h.apply reply)
  | .change proposed =>
    (leaseReply headers).map fun reply => (none, { h with id := proposed }.apply reply)
  | .break => (leaseTime headers).map fun seconds => (some seconds, h)

variable {h after : Handle} {op : Operation}

/-- An operation sends its request, and hears what the headers of the reply say. -/
theorem perform_eq (client : Client) (h : Handle) (op : Operation) (timeout : Option UInt32)
    (n : Network) : h.perform client.transport op timeout n =
      match (client.send (op.call h timeout) n).1.bind (h.hear · op) with
      | .error e => (.error (.ofTransport e), h, (client.send (op.call h timeout) n).2)
      | .ok (told, after) => (.ok told, after, (client.send (op.call h timeout) n).2) := by
  unfold perform Client.transport
  rcases client.send (op.call h timeout) n with ⟨answer, n'⟩
  cases answer with
  | error e => cases op <;> rfl
  | ok headers =>
    cases op with
    | acquire | release | change proposed =>
      dsimp only [Except.bind, hear, Operation.call, Client.answerOf]
      cases leaseReply headers <;> rfl
    | «break» =>
      dsimp only [Except.bind, hear, Operation.call, Client.answerOf]
      cases leaseTime headers <;> rfl

/-- A timeout of nought is none. -/
theorem perform_zero (client : Client) (h : Handle) (op : Operation) (n : Network) :
    h.perform client.transport op (some 0) n = h.perform client.transport op none n := by
  have request : client.request? (op.call h (some 0)) = client.request? (op.call h none) := by
    cases op <;> rfl
  have limit : client.limit (op.call h (some 0)) = client.limit (op.call h none) := by
    cases op <;> rfl
  have send : client.send (op.call h (some 0)) n = client.send (op.call h none) n := by
    rw [Client.send, Client.send, request, limit]
  rw [perform_eq, perform_eq, send]

/-- A break tells seconds and leaves the handle as it is, all else tells nothing. -/
theorem hear_eq_ok {headers : List Header} {told : Option UInt32}
    (heard : h.hear headers op = .ok (told, after)) :
    (op = .break ∧ (∃ seconds, told = some seconds) ∧ after = h) ∨
      (op ≠ .break ∧ told = none ∧ ∃ reply, leaseReply headers = .ok reply ∧
        after.revision = some ⟨reply.etag, reply.lastModified⟩) := by
  cases op with
  | acquire | release | change proposed =>
    right
    cases replied : leaseReply headers with
    | error e => simp [hear, replied, Except.map] at heard
    | ok reply =>
      simp only [hear, replied, Except.map, Except.ok.injEq, Prod.mk.injEq] at heard
      obtain ⟨rfl, rfl⟩ := heard
      exact ⟨nofun, rfl, reply, rfl, rfl⟩
  | «break» =>
    left
    cases timed : leaseTime headers with
    | error e => simp [hear, timed, Except.map] at heard
    | ok seconds =>
      simp only [hear, timed, Except.map, Except.ok.injEq, Prod.mk.injEq] at heard
      obtain ⟨rfl, rfl⟩ := heard
      exact ⟨rfl, ⟨seconds, rfl⟩, rfl⟩

end Handle

theorem Failure.exitCode_ne_zero (f : Failure) : f.exitCode ≠ 0 := by
  unfold exitCode
  split
  · split <;> decide
  all_goals decide

namespace Program

variable {s : Surroundings} {c : Command} {e : Errand} {client : Client} {path : SharePath}
variable {op : Operation} {h after : Handle} {f : Failure}

/-- What is printed of a granted operation: for a break the file and the seconds until the lease
ends, else the lease. -/
def Shows (path : SharePath) (after : Handle) (output : String) :
    Operation → Option UInt32 → Prop
  | .break, told => ∃ seconds, told = some seconds ∧ Json.ofText output =
      .ok (.object [("lease_time", .integer seconds.toNat), ("path", .string path.display)])
  | _, _ => Snapshot.ofText output = .ok after.snapshot

theorem leaseDocument_eq (h : Handle) : leaseDocument h = .object h.snapshot.members := by
  rw [← Snapshot.sortMembers_toJson]
  rfl

theorem simple_breakDocument (path : SharePath) (seconds : UInt32) :
    ∀ m ∈ [("lease_time", Json.integer seconds.toNat), ("path", .string path.display)],
      Json.Simple m.2 := by
  have small : seconds.toNat < UInt64.size :=
    seconds.toNat_lt.trans (by decide)
  simp only [List.forall_mem_cons]
  exact ⟨.integer small, .string _, List.forall_mem_nil _⟩

/-- The document of a granted operation shows what the operation told. -/
theorem shows_document {headers : List Header} {told : Option UInt32}
    (heard : h.hear headers op = .ok (told, after)) :
    Shows h.path after ((document after told).pretty ++ "\n") op told ∧
      ∃ a, Json.ofText ((document after told).pretty ++ "\n") = .ok a := by
  obtain ⟨rfl, ⟨seconds, rfl⟩, rfl⟩ | ⟨ne, rfl, reply, replied, revision⟩ :=
    Handle.hear_eq_ok heard
  · have read := Json.ofText_pretty (simple_breakDocument after.path seconds)
    exact ⟨⟨seconds, rfl, read⟩, _, read⟩
  · have legible : after.snapshot.Legible := by
      intro t ht
      rw [Handle.snapshot, revision] at ht
      cases ht
      exact representable_leaseReply replied
    have text : document after none = .object after.snapshot.members := leaseDocument_eq after
    rw [text]
    constructor
    · cases op with
      | acquire | release | change proposed => exact Snapshot.ofText_pretty legible
      | «break» => exact absurd rfl ne
    · exact ⟨_, Json.ofText_pretty after.snapshot.simple_members⟩

structure Failed (f : Failure) (finished : Finished) : Prop where
  exitCode : finished.exitCode = f.exitCode
  output : finished.output = ""
  complaints : finished.complaints = [f.message]

def Tells (path : SharePath) (op : Operation) (after : Handle) (finished : Finished) :
    Except Failure (Option UInt32) → Prop
  | .error f => Failed f finished
  | .ok told =>
    finished.exitCode = 0 ∧ finished.complaints = [] ∧ Shows path after finished.output op told

/-- One JSON document is printed if all went well, and nothing otherwise. -/
def Printed (finished : Finished) : Prop :=
  (finished.exitCode = 0 ↔ ∃ a, Json.ofText finished.output = .ok a) ∧
    (finished.exitCode ≠ 0 → finished.output = "")

theorem Failed.printed {finished : Finished} (failed : Failed f finished) : Printed finished := by
  have exit : finished.exitCode ≠ 0 := by
    rw [failed.exitCode]
    exact f.exitCode_ne_zero
  refine ⟨⟨fun none => absurd none exit, fun ⟨a, read⟩ => ?_⟩, fun _ => failed.output⟩
  have empty : Json.ofText "" ≠ .ok a := by
    have fault : (Json.ofText "").toOption = none := by decide +kernel
    intro read
    rw [read] at fault
    cases fault
  exact absurd (failed.output ▸ read) empty

/-- The timeout that an errand asks for: the one given, nought being none, or that of the
settings. -/
def Errand.limit (e : Errand) (settings : Settings) : Option UInt32 :=
  match e.timeout with
  | some seconds => if seconds = 0 then none else some seconds
  | none => settings.leaseTimeout

theorem perform_limit (e : Errand) (settings : Settings) (client : Client) (h : Handle)
    (n : Network) : h.perform client.transport e.op (e.timeout <|> settings.leaseTimeout) n =
      h.perform client.transport e.op (e.limit settings) n := by
  unfold Errand.limit
  cases e.timeout with
  | none => rfl
  | some seconds =>
    by_cases nought : seconds = 0
    · subst nought
      exact Handle.perform_zero client h e.op n
    · simp only [nought, if_false]
      rfl

/-- The network after a command is the one after its operation. -/
theorem network_errand (s : Surroundings) (he : errand? c = some e) :
    (runCommand s c).network = (operate (Settings.load s.file s.environment).1 e.file e.leaseId
      s.freshId e.op e.timeout s.network).2 := by
  cases c with
  | config init => cases he
  | _ =>
    cases he
    simp only [runCommand]
    split <;> simp_all only

theorem bind_eq (settings : Settings) (file : String) (leaseId : Option String)
    (freshId : String) : bind settings file leaseId freshId =
      match Command.fileOf file, Client.ofSettings settings with
      | .error cause, _ => .error (.config cause)
      | .ok _, .error f => .error f
      | .ok path, .ok client =>
        (Handle.bind (File.mk path).resource leaseId freshId).map (client, ·) := by
  unfold bind
  cases Command.fileOf file with
  | error cause => rfl
  | ok path =>
    cases Client.ofSettings settings with
    | error f => rfl
    | ok client => cases Handle.bind (File.mk path).resource leaseId freshId <;> rfl

theorem bind_path {leaseId : Option String} {freshId : String}
    (bound : Handle.bind (File.mk path).resource leaseId freshId = .ok h) : h.path = path := by
  simp only [Handle.bind, File.resource] at bound
  split at bound
  · cases bound
    rfl
  · split at bound
    · cases bound
    · cases bound
      rfl

/-- A command that is about no handle fails, and sends nothing. -/
theorem failed_errand (he : errand? c = some e)
    (unbound : bind (Settings.load s.file s.environment).1 e.file e.leaseId s.freshId = .error f) :
    (runCommand s c).network = s.network ∧ Failed f (runCommand s c) := by
  have seen := seen_errand s he
  rw [result_unbound unbound] at seen
  simp only [Finished.seen, told, Prod.mk.injEq] at seen
  refine ⟨?_, seen.1, seen.2.1, seen.2.2⟩
  rw [network_errand s he, operate, unbound]

/-- A command that is about a handle does its operation, and tells what comes of it. -/
theorem done_errand (he : errand? c = some e)
    (bound : bind (Settings.load s.file s.environment).1 e.file e.leaseId s.freshId =
      .ok (client, h)) :
    let done := h.perform client.transport e.op (e.limit (Settings.load s.file s.environment).1)
      s.network
    (runCommand s c).network = done.2.2 ∧
      Tells h.path e.op done.2.1 (runCommand s c) done.1 ∧ Printed (runCommand s c) := by
  have network := network_errand s he
  have seen := seen_errand s he
  simp only [Errand.result, operate, bound, perform_limit] at network seen
  rw [Handle.perform_eq] at network seen ⊢
  cases heard : (client.send (e.op.call h (e.limit (Settings.load s.file s.environment).1))
      s.network).1.bind (h.hear · e.op) with
  | error cause =>
    simp only [heard, Finished.seen, told, Prod.mk.injEq] at network seen ⊢
    have failed : Failed (.ofTransport cause) (runCommand s c) := ⟨seen.1, seen.2.1, seen.2.2⟩
    exact ⟨network, failed, failed.printed⟩
  | ok last =>
    obtain ⟨told?, after⟩ := last
    obtain ⟨headers, -, heard'⟩ := bind_eq_ok.mp heard
    obtain ⟨shown, read⟩ := shows_document heard'
    simp only [heard, Finished.seen, told, Prod.mk.injEq] at network seen ⊢
    obtain ⟨exit, output, complaints⟩ := seen
    refine ⟨network, ⟨exit, complaints, ?_⟩, ⟨fun _ => ?_, fun _ => exit⟩, fun other => ?_⟩
    · rwa [output]
    · rwa [output]
    · exact absurd exit other

/-- Each command for a lease has words. It checks the file, then the settings, then the lease id,
and sends nothing if one of them is wrong. Else it does to the network what the operation of a
handle does, with the same fresh ids, and tells what came of it. -/
theorem run_errand {c : Command} {e : Errand} (he : errand? c = some e) :
    Command.read c.words = .run c ∧ ∀ s : Surroundings, Command.read s.words = .run c →
      let settings := (Settings.load s.file s.environment).1
      (match Command.fileOf e.file, Client.ofSettings settings with
        | .error cause, _ => (run s).network = s.network ∧ Failed (.config cause) (run s)
        | .ok _, .error f => (run s).network = s.network ∧ Failed f (run s)
        | .ok path, .ok client =>
          match Handle.bind (File.mk path).resource e.leaseId s.freshId with
          | .error f => (run s).network = s.network ∧ Failed f (run s)
          | .ok h =>
            let done := h.perform client.transport e.op (e.limit settings) s.network
            (run s).network = done.2.2 ∧ Tells path e.op done.2.1 (run s) done.1) ∧
      ((run s).exitCode = 0 ↔ ∃ a, Json.ofText (run s).output = .ok a) ∧
      ((run s).exitCode ≠ 0 → (run s).output = "") := by
  refine ⟨Command.read_words c, fun s said => ?_⟩
  have ran : run s = runCommand s c := by simp only [run, said]
  rw [ran]
  have order := bind_eq (Settings.load s.file s.environment).1 e.file e.leaseId s.freshId
  cases named : Command.fileOf e.file with
  | error cause =>
    rw [named] at order
    obtain ⟨network, failed⟩ := failed_errand he order
    exact ⟨⟨network, failed⟩, failed.printed⟩
  | ok path =>
    cases made : Client.ofSettings (Settings.load s.file s.environment).1 with
    | error f =>
      rw [named, made] at order
      obtain ⟨network, failed⟩ := failed_errand he order
      simp only [made]
      exact ⟨⟨network, failed⟩, failed.printed⟩
    | ok client =>
      cases bound : Handle.bind (File.mk path).resource e.leaseId s.freshId with
      | error f =>
        simp only [named, made, bound, Except.map] at order
        obtain ⟨network, failed⟩ := failed_errand he order
        simp only [made, bound]
        exact ⟨⟨network, failed⟩, failed.printed⟩
      | ok h =>
        simp only [named, made, bound, Except.map] at order
        obtain ⟨network, tells, printed⟩ := done_errand he order
        rw [bind_path bound] at tells
        simp only [made, bound]
        exact ⟨⟨network, tells⟩, printed⟩

/-- A timeout of nought takes the place of that in the settings. -/
theorem run_untimed_acquire :
    let n : Network :=
      ⟨.serving [some (granting ⟨none, "e", .epoch⟩)], [], 0, 0, fun _ => "n"⟩
    let s : Surroundings := ⟨["acquire", "--timeout=0", "--", "share/f"], none, "config.toml",
      [("FILESHARE_ACCOUNT_URL", "http://127.0.0.1"), ("FILESHARE_LEASE_TIMEOUT_SECS", "7")], "x",
      n⟩
    (run s).exitCode = 0 ∧
      Snapshot.ofText (run s).output = .ok ⟨"share/f", "x", some "e", some .epoch⟩ ∧
      (run s).network.log.map (·.url.text) = ["http://127.0.0.1/share/f?comp=lease"] := by
  intro n s
  let h : Handle := ⟨"x", none, ⟨"share", "f"⟩⟩
  have loaded : Settings.load s.file s.environment =
      ({ Settings.default with accountUrl := "http://127.0.0.1", leaseTimeout := some 7 },
        false) := by decide +kernel
  have made : Client.ofSettings (Settings.load s.file s.environment).1 = .ok .loopback := by
    rw [loaded]
    rfl
  have named : Command.fileOf "share/f" = .ok ⟨"share", "f"⟩ := by decide +kernel
  have bound : Handle.bind (File.mk ⟨"share", "f"⟩).resource none s.freshId = .ok h := rfl
  have limit : Errand.limit ⟨"share/f", none, .acquire, some 0⟩
      (Settings.load s.file s.environment).1 = none := rfl
  have granted : (h.perform Client.loopback.transport .acquire none n).1.toOption = some none := by
    decide +kernel
  have snapshot : (h.perform Client.loopback.transport .acquire none n).2.1.snapshot =
      ⟨"share/f", "x", some "e", some .epoch⟩ := by decide +kernel
  have log : (h.perform Client.loopback.transport .acquire none n).2.2.log.map (·.url.text) =
      ["http://127.0.0.1/share/f?comp=lease"] := by decide +kernel
  obtain ⟨words, ran⟩ := run_errand (c := .acquire "share/f" none (some 0)) rfl
  have done := ran s words
  simp only [named, made, bound, limit, show s.network = n from rfl] at done
  generalize h.perform Client.loopback.transport .acquire none n = last at done granted snapshot log
  obtain ⟨result, after, network⟩ := last
  cases result with
  | error f => cases granted
  | ok told =>
    obtain ⟨⟨arrived, exit, -, shows⟩, -⟩ := done
    simp only [Shows, snapshot] at shows
    rw [arrived]
    exact ⟨exit, shows, log⟩

end Program
end FileLease
