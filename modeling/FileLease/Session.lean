import FileLease.Scope

/-! # Sessions: named handles at work on one service

A session is a list of steps, some of which hold a lease while they do further steps. Every step is
reported with what it changed. -/
namespace FileLease.Session

/-- A lease id: a text, or the present id of a handle. -/
inductive IdRef
  | literal (id : String)
  | current (handle : String)

inductive NewId
  | given (id : IdRef)
  | fresh
  | entropy (bytes : Vector UInt8 16)

inductive Action
  | acquire
  | release
  | change (proposed : IdRef)
  | break

/-- A call made past the handles. -/
inductive RawCall
  | acquire (path : SharePath) (timeout : Option UInt32) (duration : LeaseDuration)
      (proposed : IdRef)
  | release (path : SharePath) (leaseId : IdRef) (timeout : Option UInt32)
  | change (path : SharePath) (leaseId proposed : IdRef) (timeout : Option UInt32)
  | break (path : SharePath) (timeout : Option UInt32)

/-- How the work of a scope ends: with the last failure of a step, if there is one, or as said. -/
inductive Ending
  | value
  | failure (f : Failure)
  | lastFailure
  | panic
  | cancel

/-- A step; `γ` are the commands that the service obeys. -/
inductive Step (γ : Type)
  | bind (handle : String) (resource : Resource) (id : NewId)
  | perform (handle : String) (action : Action) (timeout : Option UInt32)
  | look (handle : String)
  | call (raw : RawCall)
  | command (c : γ)
  | scope (handle : String) (timeout : Option UInt32) (body : List (Step γ)) (ending : Ending)

inductive WorkValue
  | finished
  | noFailure

inductive Result (ρ : Type)
  | done
  | seconds (n : UInt32)
  | reply (r : LeaseReply)
  | obeyed (r : ρ)
  | value (v : WorkValue)
  | failed (f : Failure)
  | refused (e : TransportError)
  | panicked
  | cancelled
  | noHandle

/-- A step's result, the handle it worked on, the service after it, the calls made and the warnings
given since the report before, and for a scope whose work was done the id it was told and the
reports of its steps. -/
inductive Report (σ ρ : Type)
  | mk (result : Result ρ) (handle : Option Handle) (service : σ) (calls : List Call)
      (warnings : List Warning) (work : Option (String × List (Report σ ρ)))

/-- The handles that are not at work in a scope, and what was not reported yet. -/
structure World (σ : Type) where
  service : σ
  handles : List (String × Handle)
  calls : List Call
  warnings : List Warning
  lastFailure : Option Failure
  generated : Nat

/-- A service with its commands; `later` says whether a release can be left for later, `fresh` gives
new ids, and `settle` forgets what the service noted down for a report. -/
structure Host (σ γ ρ : Type) where
  transport : Transport σ
  obey : γ → σ → ρ × σ
  later : Bool
  fresh : Nat → String
  settle : σ → σ

namespace World
variable {σ : Type}

def start (service : σ) : World σ :=
  ⟨service, [], [], [], none, 0⟩

def handle? (w : World σ) (name : String) : Option Handle :=
  w.handles.lookup name

def drop (w : World σ) (name : String) : World σ :=
  { w with handles := w.handles.filter (·.1 != name) }

def put (w : World σ) (name : String) (h : Handle) : World σ :=
  { w with handles := (name, h) :: (w.drop name).handles }

def warn (w : World σ) (warnings : List Warning) : World σ :=
  { w with warnings := w.warnings ++ warnings }

def fail (w : World σ) (f : Failure) : World σ :=
  { w with lastFailure := some f }

/-- The id that is meant; a handle that is not there has an empty one. -/
def resolve (w : World σ) : IdRef → String
  | .literal id => id
  | .current name => ((w.handle? name).map Handle.id).getD ""

def operation (w : World σ) : Action → Operation
  | .acquire => .acquire
  | .release => .release
  | .change proposed => .change (w.resolve proposed)
  | .break => .break

def rawCall (w : World σ) : RawCall → Call
  | .acquire path timeout duration proposed => .acquire path timeout duration (w.resolve proposed)
  | .release path leaseId timeout => .release path (w.resolve leaseId) timeout
  | .change path leaseId proposed timeout =>
    .change path (w.resolve leaseId) (w.resolve proposed) timeout
  | .break path timeout => .break path timeout

def transport (t : Transport σ) : Transport (World σ) := fun c w =>
  let (answer, service) := t c w.service
  (answer, { w with service, calls := w.calls ++ [c] })

/-- A report, after which there is nothing left to report. -/
def report (w : World σ) (result : Result ρ) (handle : Option Handle)
    (work : Option (String × List (Report σ ρ))) : Report σ ρ × World σ :=
  (⟨result, handle, w.service, w.calls, w.warnings, work⟩, { w with calls := [], warnings := [] })

/-- How the work of a scope ends; a last failure is then no longer remembered. -/
def exit (w : World σ) : Ending → Exit WorkValue × World σ
  | .value => (.value .finished, w)
  | .failure f => (.failure f, w)
  | .lastFailure =>
    match w.lastFailure with
    | some f => (.failure f, { w with lastFailure := none })
    | none => (.value .noFailure, w)
  | .panic => (.panic "body panicked", w)
  | .cancel => (.cancelled, w)

end World

/-- Calls made through the first part of a pair. -/
def pairTransport (t : Transport α) : Transport (α × β) := fun c (a, b) =>
  let (answer, a) := t c a
  (answer, (a, b))

def resultOfExit : Exit WorkValue → Result ρ
  | .value v => .value v
  | .failure f => .failed f
  | .panic _ => .panicked
  | .cancelled => .cancelled

def resultOfAnswer : (c : Call) → Except TransportError c.Answer → Result ρ
  | _, .error e => .refused e
  | .acquire .., .ok reply => .reply reply
  | .release .., .ok reply => .reply reply
  | .change .., .ok reply => .reply reply
  | .break .., .ok seconds => .seconds seconds

namespace Step
variable {σ γ ρ : Type}

def runBind (host : Host σ γ ρ) (name : String) (resource : Resource) (id : NewId)
    (w : World σ) : Report σ ρ × World σ :=
  let bound := match id with
    | .given id => Handle.bind resource (some (w.resolve id)) ""
    | .fresh => Handle.bind resource none (host.fresh w.generated)
    | .entropy bytes => Handle.bindEntropy resource bytes
  match bound with
  | .error f => (w.fail f).report (.failed f) none none
  | .ok h =>
    let generated := match id with
      | .fresh => w.generated + 1
      | _ => w.generated
    ({ w with generated }.put name h).report .done (some h) none

def runPerform (host : Host σ γ ρ) (name : String) (action : Action) (timeout : Option UInt32)
    (w : World σ) : Report σ ρ × World σ :=
  match w.handle? name with
  | none => w.report .noHandle none none
  | some h =>
    match h.perform (World.transport host.transport) (w.operation action) timeout w with
    | (.error f, h, w) => ((w.fail f).put name h).report (.failed f) (some h) none
    | (.ok seconds, h, w) =>
      (w.put name h).report ((seconds.map .seconds).getD .done) (some h) none

def runCall (host : Host σ γ ρ) (raw : RawCall) (w : World σ) : Report σ ρ × World σ :=
  let c := w.rawCall raw
  match World.transport host.transport c w with
  | (.error e, w) => (w.fail (.ofTransport e)).report (.refused e) none none
  | (.ok answer, w) => w.report (resultOfAnswer c (.ok answer)) none none

mutual

def run (host : Host σ γ ρ) : Step γ → World σ → Report σ ρ × World σ
  | .bind name resource id, w => runBind host name resource id w
  | .perform name action timeout, w => runPerform host name action timeout w
  | .look name, w =>
    match w.handle? name with
    | none => w.report .noHandle none none
    | some h => w.report .done (some h) none
  | .call raw, w => runCall host raw w
  | .command c, w =>
    let (result, service) := host.obey c w.service
    { w with service }.report (.obeyed result) none none
  | .scope name timeout body ending, w =>
    match w.handle? name with
    | none => w.report .noHandle none none
    | some h =>
      let t := World.transport host.transport
      let work (id : String) (state : World σ × Option (String × List (Report σ ρ))) :=
        let (reports, w) := runAll host body state.1
        let (exit, w) := w.exit ending
        (exit, (w, some (id, reports)))
      let held := h.withLease (pairTransport t) host.later timeout work (w.drop name, none)
      let (w, done) := held.world
      let w := w.warn held.warnings
      let (later, w) := match held.deferred with
        | some release => release.run t w
        | none => ([], w)
      let w := (w.warn later).put name held.handle
      let w := match held.exit with
        | .failure f => w.fail f
        | _ => w
      w.report (resultOfExit held.exit) (some held.handle) done

def runAll (host : Host σ γ ρ) : List (Step γ) → World σ → List (Report σ ρ) × World σ
  | [], w => ([], w)
  | step :: steps, w =>
    let (report, w) := run host step w
    let (reports, w) := runAll host steps { w with service := host.settle w.service }
    (report :: reports, w)

end

end Step
end FileLease.Session
