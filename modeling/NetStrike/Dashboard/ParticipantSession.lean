import Mathlib.Algebra.Ring.Nat
import NetStrike.Foundation.Json
import NetStrike.Foundation.Runs

/-!
# The participant session

`ParticipantSession` of `dashboard/static/participant-session.js`. An asynchronous method is cut at
its `await`: the part before it is one step that issues a request with what the method remembers, the
part after it is one step that takes the response. Between the two anything else can happen. The
callbacks `cleared` and `changed` do not touch the session and are left out.

A `SessionWorld` is the session with the stored token, the requests in flight and a log of the calls.
-/

set_option autoImplicit false

namespace NetStrike.Dashboard

open NetStrike.Foundation

/-! ## Values -/

/-- White space and line ends, as `String.prototype.trim` removes them. -/
def jsSpace (c : Char) : Bool :=
  (0x09 ≤ c.toNat && c.toNat ≤ 0x0d) || (0x2000 ≤ c.toNat && c.toNat ≤ 0x200a) ||
    [0x20, 0xa0, 0x1680, 0x2028, 0x2029, 0x202f, 0x205f, 0x3000, 0xfeff].contains c.toNat

/-- `trim`. -/
def jsTrim (s : String) : String :=
  String.ofList ((s.toList.dropWhile jsSpace).reverse.dropWhile jsSpace).reverse

/-- The length in UTF-16 code units. -/
def jsLength (s : String) : Nat := (s.toList.map fun c => if 0xffff < c.toNat then 2 else 1).sum

/-- The names of the run states. -/
def runStates : List String := ["ready", "running", "paused", "stopped", "completed"]

/-- A run id that a state may carry. -/
def validRunId (run_id : String) : Bool :=
  jsTrim run_id ≠ "" && run_id = jsTrim run_id && jsLength run_id ≤ 128 &&
    run_id.toList.all fun c => decide (0x20 ≤ c.toNat)

/-- A finite number that is not negative. -/
def validElapsed : Option Json → Bool
  | some (.int n) => decide (0 ≤ n)
  | some (.float q) => decide (0 ≤ q)
  | _ => false

/-- What `refresh` asks of a state. -/
def validState (state : Json) : Bool :=
  (match state.str? "run_id" with
    | some run_id => validRunId run_id
    | none => false) &&
    (match state.str? "state" with
      | some name => runStates.contains name
      | none => false) &&
    validElapsed (state.get? "elapsed_seconds") &&
    (match state.get? "injects" with
      | some (.arr _) => true
      | _ => false) &&
    (match state.get? "cloud_enabled", state.get? "impact_enabled" with
      | some (.bool _), some (.bool _) => true
      | _, _ => false)

/-! ## The session -/

/-- The object that `read` puts into the map; objects differ by their identity. -/
structure ReadOwner where
  identity : Nat
  activity : Nat
deriving DecidableEq

/-- What a method remembers across its `await`. -/
structure Context where
  credential : String
  epoch : Nat
  runId : Option String
deriving DecidableEq

/-- The fields of the session. -/
structure ParticipantSession where
  credential : String
  epoch : Nat
  serial : Nat
  runId : Option String
  state : Option Json
  pendingWrite : Option Context
  activity : Nat
  reads : String → Option ReadOwner

/-- How a call ends: its promise resolves to a value or to null, or it is rejected. -/
inductive Outcome where
  | value (body : Json)
  | null
  | rejected (message : String)
deriving DecidableEq

/-- A response; an error may carry a status. -/
inductive Response where
  | ok (body : Json)
  | error (status : Option Nat) (message : String)
deriving DecidableEq

namespace ParticipantSession

/-- The constructor. -/
def init : ParticipantSession := ⟨"", 0, 0, none, none, none, 0, fun _ => none⟩

/-- `invalidate`. -/
def invalidate (s : ParticipantSession) : ParticipantSession :=
  { s with
    epoch := s.epoch + 1
    serial := s.serial + 1
    runId := none
    state := none
    activity := s.activity + 1
    reads := fun _ => none }

/-- `sync`, with the token that `readToken` returns. -/
def sync (token : String) (s : ParticipantSession) : ParticipantSession :=
  if token ≠ s.credential then invalidate { s with credential := token } else s

/-- `current`. -/
def current (token credential : String) (epoch : Nat) (s : ParticipantSession) :
    Bool × ParticipantSession :=
  if credential = "" then (false, s)
  else (decide (token = credential ∧ (s.sync token).epoch = epoch), s.sync token)

/-- The run id, unless it is empty. -/
def run? (s : ParticipantSession) : Option String :=
  match s.runId with
  | some run_id => if run_id = "" then none else some run_id
  | none => none

/-- `canWrite`. -/
def canWrite (s : ParticipantSession) : Bool :=
  s.pendingWrite.isNone && s.state.isSome && s.run?.isSome && s.credential ≠ ""

/-- `context`. -/
def context (token : String) (s : ParticipantSession) :
    Except String Context × ParticipantSession :=
  let s := s.sync token
  if s.credential = "" ∨ s.state.isNone = true ∨ s.run?.isNone = true then
    (.error "Refresh the current exercise before acting.", s)
  else (.ok ⟨s.credential, s.epoch, s.runId⟩, s)

/-- The statuses that end the authority of the credential. -/
def denies (status : Option Nat) : Bool := status = some 401 || status = some 403

/-! ### `refresh` -/

/-- The `catch` part of `refresh`. -/
def refreshFailed (token credential : String) (epoch serial : Nat) (status : Option Nat)
    (message : String) (s : ParticipantSession) : Outcome × ParticipantSession :=
  let (isCurrent, s) := s.current token credential epoch
  if ¬ isCurrent ∨ serial ≠ s.serial then (.null, s)
  else
    let s := { s with state := none }
    (.rejected message, if denies status then s.invalidate else s)

/-- The run that a valid state confirms. -/
def confirm (run_id : String) (state : Json) (s : ParticipantSession) : ParticipantSession :=
  let s := if s.run?.isSome ∧ s.runId ≠ some run_id then s.invalidate else s
  { s with runId := some run_id, state := some state }

/-- `refresh` after its `await`. -/
def endRefresh (token credential : String) (epoch serial : Nat) (response : Response)
    (s : ParticipantSession) : Outcome × ParticipantSession :=
  match response with
  | .error status message => s.refreshFailed token credential epoch serial status message
  | .ok state =>
      let (isCurrent, s) := s.current token credential epoch
      if ¬ isCurrent ∨ serial ≠ s.serial then (.null, s)
      else if validState state then
        (.value state, s.confirm ((state.str? "run_id").getD "") state)
      else s.refreshFailed token credential epoch serial none "Exercise state unavailable."

/-! ### `read` -/

/-- The local function `current` of `read`. -/
def readCurrent (token path : String) (ctx : Context) (owner : ReadOwner)
    (s : ParticipantSession) : Bool × ParticipantSession :=
  let (isCurrent, s) := s.current token ctx.credential ctx.epoch
  (isCurrent && decide (s.runId = ctx.runId ∧ s.activity = owner.activity ∧
    s.reads path = some owner), s)

/-- `read` before its `await`. -/
def beginRead (token path : String) (identity : Nat) (s : ParticipantSession) :
    Except String (Context × ReadOwner) × ParticipantSession :=
  match s.context token with
  | (.error message, s) => (.error message, s)
  | (.ok ctx, s) =>
      let owner : ReadOwner := ⟨identity, s.activity⟩
      (.ok (ctx, owner), { s with reads := Function.update s.reads path (some owner) })

/-- `read` after its `await`. -/
def endRead (token path : String) (runScoped : Bool) (ctx : Context) (owner : ReadOwner)
    (response : Response) (s : ParticipantSession) : Outcome × ParticipantSession :=
  let (isCurrent, s) := s.readCurrent token path ctx owner
  match response with
  | .error status message =>
      if ¬ isCurrent then (.null, s)
      else (.rejected message, if denies status then s.invalidate else s)
  | .ok result =>
      if ¬ isCurrent then (.null, s)
      else if runScoped ∧ result.get? "run_id" ≠ ctx.runId.map .str then
        (.rejected "Exercise changed. Refresh and inspect the new run.", s.invalidate)
      else (.value result, s)

/-! ### `write` -/

/-- What `write` does to the session when it starts and when it ends; both end the authority to
write. -/
def barrier (pendingWrite : Option Context) (s : ParticipantSession) : ParticipantSession :=
  { s with
    pendingWrite := pendingWrite
    serial := s.serial + 1
    activity := s.activity + 1
    reads := fun _ => none
    state := none }

/-- `write` before its `await`. -/
def beginWrite (token : String) (s : ParticipantSession) :
    Except String Context × ParticipantSession :=
  let s := s.sync token
  if s.pendingWrite.isSome then
    (.error ("Another action is pending. Wait for its result and inspect before submitting again."),
      s)
  else match s.context token with
    | (.error message, s) => (.error message, s)
    | (.ok ctx, s) => (.ok ctx, s.barrier (some ctx))

/-- Whether `write` may look at the response. -/
def writeCurrent (token : String) (ctx : Context) (s : ParticipantSession) :
    Bool × ParticipantSession :=
  let (isCurrent, s) := s.current token ctx.credential ctx.epoch
  (isCurrent && decide (s.runId = ctx.runId), s)

/-- The `catch` part of `write`. -/
def writeFailed (token : String) (ctx : Context) (status : Option Nat) (message : String)
    (s : ParticipantSession) : Outcome × ParticipantSession :=
  let (isCurrent, s) := s.writeCurrent token ctx
  if ¬ isCurrent then (.null, s)
  else
    (.rejected (message ++ " Refresh and inspect the run before acting again; the request was not " ++
      "confirmed."), if denies status then s.invalidate else s)

/-- The response names another run. -/
def otherRun (ctx : Context) (result : Json) : Bool :=
  match result.get? "run_id" with
  | some run_id => decide (some run_id ≠ ctx.runId.map .str)
  | none => false

/-- `write` between its `await` and its `finally`. -/
def writeAnswered (token : String) (ctx : Context) (response : Response)
    (s : ParticipantSession) : Outcome × ParticipantSession :=
  match response with
  | .error status message => s.writeFailed token ctx status message
  | .ok result =>
      let (isCurrent, s) := s.writeCurrent token ctx
      if ¬ isCurrent then (.null, s)
      else if otherRun ctx result then
        s.invalidate.writeFailed token ctx none
          "Exercise changed; response did not confirm the inspected run."
      else (.value result, s)

/-- `write` after its `await`. -/
def endWrite (token : String) (ctx : Context) (response : Response) (s : ParticipantSession) :
    Outcome × ParticipantSession :=
  let (outcome, s) := s.writeAnswered token ctx response
  (outcome, s.barrier none)

end ParticipantSession

/-! ## The page -/

/-- A request in flight, with what its method remembers. -/
inductive Request where
  | refresh (credential : String) (epoch serial : Nat)
  | read (path : String) (runScoped : Bool) (ctx : Context) (owner : ReadOwner)
  | write (ctx : Context)
deriving DecidableEq

/-- The method of a call. -/
inductive CallKind where
  | refresh
  | read
  | write
deriving DecidableEq

/-- The method that a request belongs to. -/
def Request.kind : Request → CallKind
  | .refresh .. => .refresh
  | .read .. => .read
  | .write .. => .write

/-- An entry of the log: a call was issued in a context, or its response was taken in one. -/
inductive SessionEvent where
  | began (call : Nat) (kind : CallKind) (ctx : Context)
  | settled (call : Nat) (kind : CallKind) (outcome : Outcome) (ctx : Context)
deriving DecidableEq

/-- The session, the stored token, the requests in flight and the log, oldest entry first. -/
structure SessionWorld where
  token : String
  session : ParticipantSession
  inFlight : List (Nat × Request)
  next : Nat
  log : List SessionEvent

/-- What can happen next. -/
inductive SessionOp where
  | setToken (token : String)
  | sync
  | invalidate
  | refresh
  | read (path : String) (runScoped : Bool)
  | write
  | respond (call : Nat) (response : Response)

namespace SessionWorld

/-- A page that has just loaded. -/
def init (token : String) : SessionWorld := ⟨token, .init, [], 0, []⟩

/-- The credential, epoch and run of this moment. -/
def now (w : SessionWorld) : Context := ⟨w.token, w.session.epoch, w.session.runId⟩

/-- A request is sent. -/
def issue (request : Request) (s : ParticipantSession) (w : SessionWorld) : SessionWorld :=
  { w with
    session := s
    inFlight := w.inFlight ++ [(w.next, request)]
    next := w.next + 1
    log := w.log ++ [.began w.next request.kind ⟨s.credential, s.epoch, s.runId⟩] }

/-- `refresh` before its `await`; without a credential it ends there. -/
def refresh (w : SessionWorld) : SessionWorld :=
  let s := w.session.sync w.token
  if s.credential = "" then
    { w with
      session := s
      next := w.next + 1
      log := w.log ++ [.began w.next .refresh ⟨s.credential, s.epoch, s.runId⟩,
        .settled w.next .refresh .null ⟨s.credential, s.epoch, s.runId⟩] }
  else
    w.issue (.refresh s.credential s.epoch (s.serial + 1)) { s with serial := s.serial + 1 }

/-- `read` before its `await`. -/
def read (path : String) (runScoped : Bool) (w : SessionWorld) : SessionWorld :=
  match w.session.beginRead w.token path w.next with
  | (.error _, s) => { w with session := s }
  | (.ok (ctx, owner), s) => w.issue (.read path runScoped ctx owner) s

/-- `write` before its `await`. -/
def write (w : SessionWorld) : SessionWorld :=
  match w.session.beginWrite w.token with
  | (.error _, s) => { w with session := s }
  | (.ok ctx, s) => w.issue (.write ctx) s

/-- The rest of the method that waits for the response. -/
def answer (token : String) (response : Response) (s : ParticipantSession) :
    Request → Outcome × ParticipantSession
  | .refresh credential epoch serial => s.endRefresh token credential epoch serial response
  | .read path runScoped ctx owner => s.endRead token path runScoped ctx owner response
  | .write ctx => s.endWrite token ctx response

/-- A response is taken; a call is answered once. -/
def respond (call : Nat) (response : Response) (w : SessionWorld) : SessionWorld :=
  match w.inFlight.lookup call with
  | none => w
  | some request =>
      let (outcome, s) := answer w.token response w.session request
      { w with
        session := s
        inFlight := w.inFlight.filter fun entry => entry.1 ≠ call
        log := w.log ++ [.settled call request.kind outcome w.now] }

/-- One step. -/
def step : SessionOp → SessionWorld → SessionWorld
  | .setToken token, w => { w with token := token }
  | .sync, w => { w with session := w.session.sync w.token }
  | .invalidate, w => { w with session := w.session.invalidate }
  | .refresh, w => w.refresh
  | .read path runScoped, w => w.read path runScoped
  | .write, w => w.write
  | .respond call response, w => w.respond call response

end SessionWorld

end NetStrike.Dashboard
