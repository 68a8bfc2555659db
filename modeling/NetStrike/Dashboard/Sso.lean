import NetStrike.Modules.IdentityState

/-!
# The contained sign-in

`SsoExperience` of `dashboard/sso.py`. `Sso W` holds what never changes: the configuration, the
audit sink, the clock and the source of ids, which act on a world `W`. `SsoExperience W` is the
state: the workflow, the synthetic identity state it shares with other components, and the world.

`SsoFault` says where an exception comes from, so that what the audit sink raised can be told from
what the workflow itself raises. The `journal` is a ghost field: the challenges issued and settled,
the sessions created and the moments at which the workflow was locked, since the last reset.
-/

set_option autoImplicit false

namespace NetStrike.Dashboard

open NetStrike.Foundation NetStrike.Shared NetStrike.Modules

/-! ## Configuration -/

/-- The texts under `messages`. -/
structure SsoMessages where
  failure : String
  locked : String
  mfa : String
  success : String
  suspicious : String
  rejected : String

/-- `SuspiciousSession`. -/
structure SuspiciousSession where
  session_id : String
  label : String
  location : String
  last_seen : String
deriving DecidableEq

/-- `SsoExperienceConfig`. -/
structure SsoExperienceConfig where
  service_name : String
  heading : String
  introduction : String
  identity_id : String
  username : String
  display_name : String
  initial_failures_before_mfa : Int
  lockout_threshold : Int
  mfa_timeout_seconds : Int
  messages : SsoMessages
  suspicious_sessions : List SuspiciousSession

/-! ## State -/

/-- The views of the workflow. -/
inductive SsoView where
  | sign_in
  | locked
  | success
  | mfa
  | failure
  | suspicious_session
deriving DecidableEq

/-- The name of the view. -/
def SsoView.value : SsoView → String
  | sign_in => "sign_in"
  | locked => "locked"
  | success => "success"
  | mfa => "mfa"
  | failure => "failure"
  | suspicious_session => "suspicious_session"

/-- `_SsoState`; times are microseconds of UTC. -/
structure SsoState where
  view : SsoView := .sign_in
  failed_attempts : Int := 0
  locked : Bool := false
  challenge_id : Option String := none
  challenge_expires_at : Option Int := none
  signed_in : Bool := false
  sessions_reviewed : Bool := false
  message : String := ""
  username : Option String := none
  history : List String := []
deriving DecidableEq

/-- How a challenge ends. -/
inductive Settlement where
  | approved
  | denied
  | expired
  | cancelled
deriving DecidableEq

/-- What is observed of the workflow. Challenges are numbered from one; a settlement tells whether
the identity was enabled and whether the challenge had expired. -/
inductive SsoMark where
  | challenged
  | settled (challenge : Nat) (how : Settlement) (enabled expired : Bool)
  | sessionCreated
  | lockedOut
deriving DecidableEq

/-- The state of an `SsoExperience`, its world and its journal. -/
structure SsoExperience (W : Type) where
  state : SsoState
  identity : SyntheticIdentityState
  world : W
  journal : List SsoMark
deriving DecidableEq

/-- Where an exception comes from. -/
inductive SsoFault where
  | experience (message : String)
  | boundary (message : String)
  | key (name : String)
  | audit (e : Exn)
deriving DecidableEq

/-- The fixed fields of an `SsoExperience`. -/
structure Sso (W : Type) where
  config : SsoExperienceConfig
  audit_sink : JsonObject → W → Except Exn Unit × W
  clock : W → Int × W
  id_factory : W → String × W
  casefold : String → String

/-- What `state` returns. -/
structure SsoSnapshot where
  view : SsoView
  message : String
  failed_attempts : Int
  challenge : Option (String × Int)
  display_name : Option String
  sessions_reviewed : Bool
  has_suspicious_sessions : Bool
  sessions : Option (List SuspiciousSession)
deriving DecidableEq

namespace Sso

variable {W : Type} (env : Sso W)

/-- The steps of the workflow. -/
abbrev Step (W α : Type) := Raising SsoFault (SsoExperience W) α

/-- `_GENERATED_SESSION_ID`. -/
def generatedSessionId : String := "sess-sso-current"

/-- A new workflow over an identity state. -/
def init (identity : SyntheticIdentityState) (world : W) : SsoExperience W := ⟨{}, identity, world, []⟩

/-! ## Parts -/

/-- The reading of the clock. -/
def now : Step W Int :=
  Raising.step fun s => ((env.clock s.world).1, { s with world := (env.clock s.world).2 })

/-- `str(self._id_factory())`. -/
def newId : Step W String :=
  Raising.step fun s => ((env.id_factory s.world).1, { s with world := (env.id_factory s.world).2 })

/-- The payload of an audit call. -/
def payload (identity_id action result source_event_id : String) (occurred_at : Int)
    (credential : Option String) : JsonObject :=
  [("phase", .str "identity"), ("synthetic_identity", .str identity_id),
    ("occurred_at", .str (DateTime.isoformat ⟨true, occurred_at⟩)), ("action", .str action),
    ("result", .str result), ("source_event_id", .str source_event_id)] ++
  match credential with
  | some credential =>
      [("credential_kind", .str "password"), ("synthetic_credential", .str credential)]
  | none => []

/-- `_audit`. -/
def audit (action result : String) (credential identity_id : Option String) : Step W Unit := do
  let occurred_at ← env.now
  let id ← env.newId
  let answer ← Raising.step fun s =>
    let sent := env.audit_sink (payload ((truthy identity_id).getD env.config.identity_id) action
      result ("sso-" ++ id) occurred_at credential) s.world
    (sent.1, { s with world := sent.2 })
  match answer with
  | .ok _ => pure ()
  | .error e => Raising.raise (.audit e)

/-- `_active_suspicious_sessions`. -/
def activeSuspiciousSessions (s : SsoExperience W) : List SuspiciousSession :=
  env.config.suspicious_sessions.filter fun item =>
    match s.identity.sessions.lookup item.session_id with
    | some session => session.active
    | none => false

/-- The open challenge. -/
def openChallenge (s : SsoState) : Option (String × Int) :=
  match truthy s.challenge_id, s.challenge_expires_at with
  | some id, some expires_at => some (id, expires_at)
  | _, _ => none

/-- The snapshot of a state with the given challenge. -/
def snapshot (s : SsoExperience W) (challenge : Option (String × Int)) : SsoSnapshot where
  view := s.state.view
  message := s.state.message
  failed_attempts := s.state.failed_attempts
  challenge := challenge
  display_name := (truthy s.state.username).map fun _ => env.config.display_name
  sessions_reviewed := s.state.sessions_reviewed
  has_suspicious_sessions := s.state.signed_in && !(env.activeSuspiciousSessions s).isEmpty
  sessions := if s.state.sessions_reviewed then some (env.activeSuspiciousSessions s) else none

/-- `state`; the seconds left are rounded towards zero. -/
def state : Step W SsoSnapshot := do
  let challenge ← Raising.gets fun s => openChallenge s.state
  match challenge with
  | none => Raising.gets fun s => env.snapshot s none
  | some (id, expires_at) =>
      let now ← env.now
      Raising.gets fun s => env.snapshot s (some (id, max 0 ((expires_at - now).tdiv 1000000)))

/-- Change the workflow. -/
def setState (f : SsoState → SsoState) (s : SsoExperience W) : SsoExperience W :=
  { s with state := f s.state }

/-- Add to the journal. -/
def note (mark : SsoMark) (s : SsoExperience W) : SsoExperience W :=
  { s with journal := s.journal ++ [mark] }

/-- Change the entry of the configured identity. -/
def setIdentity (f : Identity → Identity) (s : SsoExperience W) : SsoExperience W :=
  match s.identity.identities.lookup env.config.identity_id with
  | some identity => { s with identity := { s.identity with
      identities := setEntry env.config.identity_id (f identity) s.identity.identities } }
  | none => s

/-- Change the challenge record of the configured identity. -/
def setMfa (f : MfaRecord → MfaRecord) (s : SsoExperience W) : SsoExperience W :=
  match s.identity.mfa.lookup env.config.identity_id with
  | some record => { s with identity := { s.identity with
      mfa := setEntry env.config.identity_id (f record) s.identity.mfa } }
  | none => s

/-- The number of the last challenge. -/
def issued (s : SsoExperience W) : Nat := s.journal.count .challenged

/-! ## Sign-in -/

/-- Another account than the configured one. -/
def reject : Step W SsoSnapshot := do
  env.audit "identity.sign_in.rejected" "denied" none (some "external-account")
  Raising.raise (.boundary env.config.messages.rejected)

/-- The workflow becomes locked. -/
def lock (s : SsoExperience W) : SsoExperience W :=
  note .lockedOut (setState (fun t => { t with
    view := .locked
    locked := true
    message := env.config.messages.locked
    history := t.history ++ ["locked"] }) s)

/-- A sign-in to a disabled or locked account. -/
def refuse : Step W SsoSnapshot := do
  Raising.modify env.lock
  env.audit "identity.sign_in.attempt" "blocked" none none
  env.state

/-- Show the view of the given name. -/
def showView (view : SsoView) (message : String) : Step W SsoSnapshot := do
  Raising.modify (setState fun t => { t with view := view, message := message })
  env.state

/-- A failed attempt short of the threshold. -/
def fail (s : SsoExperience W) : SsoExperience W :=
  setState (fun t => { t with
    failed_attempts := t.failed_attempts + 1
    locked := false
    view := .failure
    message := env.config.messages.failure
    history := t.history ++ ["failure"] }) s

/-- The failed attempt that reaches the threshold. -/
def lockOut (s : SsoExperience W) : SsoExperience W :=
  env.setIdentity (fun identity => { identity with enabled := false })
    (env.lock (setState (fun t => { t with failed_attempts := t.failed_attempts + 1 }) s))

/-- A failed attempt. -/
def countFailure (credential : String) : Step W SsoSnapshot := do
  let failed ← Raising.gets fun s => s.state.failed_attempts + 1
  if env.config.lockout_threshold ≤ failed then do
    Raising.modify env.lockOut
    env.audit "identity.sign_in.attempt" "blocked" (some credential) none
    env.state
  else do
    Raising.modify env.fail
    env.audit "identity.sign_in.attempt" "failure" (some credential) none
    env.state

/-- A challenge with the given id. -/
def challenge (id : String) (now : Int) (s : SsoExperience W) : SsoExperience W :=
  note .challenged (setState (fun t => { t with
    challenge_id := some id
    challenge_expires_at := some (now + env.config.mfa_timeout_seconds * 1000000)
    view := .mfa
    message := env.config.messages.mfa
    history := t.history ++ ["mfa"] }) s)

/-- An accepted attempt. -/
def issueChallenge (credential : String) : Step W SsoSnapshot := do
  let id ← env.newId
  let now ← env.now
  Raising.modify (env.challenge id now)
  env.audit "identity.sign_in.attempt" "success" (some credential) none
  env.audit "identity.mfa.challenge.delivered" "pending" none none
  env.state

/-- A sign-in of the configured account. -/
def attemptSignIn (identity : Identity) (credential : String) : Step W SsoSnapshot := do
  let t ← Raising.gets SsoExperience.state
  if identity.enabled = false ∨ t.locked = true then env.refuse
  else if t.signed_in = true then env.showView .success env.config.messages.success
  else if (truthy t.challenge_id).isSome = true then env.showView .mfa env.config.messages.mfa
  else if t.failed_attempts < env.config.initial_failures_before_mfa then
    env.countFailure credential
  else env.issueChallenge credential

/-- A sign-in under the configured name. -/
def signInKnown (credential : String) : Step W SsoSnapshot := do
  let found ← Raising.gets fun s => s.identity.identities.lookup env.config.identity_id
  match found with
  | none => Raising.raise (.boundary env.config.messages.rejected)
  | some identity =>
      if identity.synthetic = false then
        Raising.raise (.boundary env.config.messages.rejected)
      else do
        Raising.modify (setState fun t => { t with username := some env.config.username })
        env.attemptSignIn identity credential

/-- The text of an accepted username. -/
def usernameOf : Json → Option String
  | .str username => if Blank username ∨ 256 < username.length then none else some username
  | _ => none

/-- The text of an accepted access phrase. -/
def credentialOf : Json → Option String
  | .str credential => if credential = "" ∨ 1024 < credential.length then none else some credential
  | _ => none

/-- `sign_in`. -/
def signIn (username credential : Json) : Step W SsoSnapshot :=
  match usernameOf username with
  | none => Raising.raise (.boundary env.config.messages.rejected)
  | some username =>
      match credentialOf credential with
      | none => Raising.raise (.experience "an exercise access phrase is required")
      | some credential =>
          if env.casefold (strip username) ≠ env.config.username then env.reject
          else env.signInKnown credential

/-! ## Decision -/

/-- The challenge is no longer open. -/
def clearChallenge (t : SsoState) : SsoState :=
  { t with challenge_id := none, challenge_expires_at := none }

/-- The challenge of a disabled account. -/
def cancel (expired : Bool) (s : SsoExperience W) : SsoExperience W :=
  note (.settled (issued s) .cancelled false expired) (setState (fun t => { clearChallenge t with
    view := .locked, message := env.config.messages.locked }) s)

/-- The decision on an expired challenge. -/
def expire (s : SsoExperience W) : SsoExperience W :=
  note (.settled (issued s) .expired true true) (setState (fun t => { clearChallenge t with
      view := .failure
      message := env.config.messages.failure
      history := t.history ++ ["mfa_expired"] })
    (env.setMfa (fun record => ⟨record.push_count + 1, .denied⟩) s))

/-- The approval of an open challenge. -/
def approve (s : SsoExperience W) : SsoExperience W :=
  note (.settled (issued s) .approved true false) (setState (fun t => { clearChallenge t with
      signed_in := true
      view := .success
      message := env.config.messages.success
      history := t.history ++ ["mfa_approve"] })
    (env.setMfa (fun record => ⟨record.push_count + 1, .approved⟩) s))

/-- The denial of an open challenge. -/
def deny (s : SsoExperience W) : SsoExperience W :=
  note (.settled (issued s) .denied true false) (setState (fun t => { clearChallenge t with
      signed_in := false
      view := .failure
      message := env.config.messages.failure
      history := t.history ++ ["mfa_deny"] })
    (env.setMfa (fun record => ⟨record.push_count + 1, .denied⟩) s))

/-- The session of an approved sign-in. -/
def createSession (s : SsoExperience W) : SsoExperience W :=
  note .sessionCreated { s with identity := { s.identity with
    sessions := setEntry generatedSessionId
      ⟨env.config.identity_id, true, some "participant_sso"⟩ s.identity.sessions } }

/-- Whether the open challenge has expired; the clock is read only where there is an expiry. -/
def hasExpired : Step W Bool := do
  let expires_at ← Raising.gets fun s => s.state.challenge_expires_at
  match expires_at with
  | none => return true
  | some expires_at =>
      let now ← env.now
      return decide (expires_at ≤ now)

/-- The end of the challenge of an enabled account. -/
def settle (approves expired : Bool) : Step W SsoSnapshot :=
  if expired = true then do
    Raising.modify env.expire
    env.audit "identity.mfa.challenge.expired" "denied" none none
    env.state
  else if approves = true then do
    Raising.modify env.approve
    env.audit "identity.mfa.challenge.approve" "success" none none
    Raising.modify env.createSession
    env.audit "identity.session.created" "success" none none
    env.state
  else do
    Raising.modify env.deny
    env.audit "identity.mfa.challenge.deny" "denied" none none
    env.state

/-- The decision on the open challenge. -/
def decideOpen (approves : Bool) : Step W SsoSnapshot := do
  let expired ← env.hasExpired
  let found ← Raising.gets fun s => s.identity.identities.lookup env.config.identity_id
  match found with
  | none => Raising.raise (.key env.config.identity_id)
  | some identity =>
      if identity.enabled = false then do
        Raising.modify (env.cancel expired)
        env.audit "identity.mfa.challenge.cancelled" "blocked" none none
        Raising.raise (.experience "account disabled; challenge cancelled")
      else do
        let record ← Raising.gets fun s => s.identity.mfa.lookup env.config.identity_id
        match record with
        | none => Raising.raise (.key env.config.identity_id)
        | some _ => env.settle approves expired

/-- The text of a given challenge id. -/
def challengeOf : Json → Option String
  | .str id => if id = "" then none else some id
  | _ => none

/-- A given decision: whether it approves. -/
def decisionOf : Json → Option Bool
  | .str "approve" => some true
  | .str "deny" => some false
  | _ => none

/-- `decide_mfa`. -/
def decideMfa (challenge_id decision : Json) : Step W SsoSnapshot :=
  match challengeOf challenge_id with
  | none => Raising.raise (.experience "challenge id is required")
  | some id =>
      match decisionOf decision with
      | none => Raising.raise (.experience "decision must be approve or deny")
      | some approves => do
          let current ← Raising.gets fun s => truthy s.state.challenge_id
          if current = some id then env.decideOpen approves
          else Raising.raise (.experience "challenge is unknown or no longer active")

/-! ## Review and reset -/

/-- The sessions are shown. -/
def review (s : SsoExperience W) : SsoExperience W :=
  setState (fun t => { t with
    sessions_reviewed := true
    view := .suspicious_session
    message := env.config.messages.suspicious
    history := t.history ++ ["sessions_reviewed"] }) s

/-- `review_sessions`. -/
def reviewSessions : Step W SsoSnapshot := do
  let signed_in ← Raising.gets fun s => s.state.signed_in
  if signed_in = true then do
    Raising.modify env.review
    env.audit "identity.session.reviewed" "success" none none
    env.state
  else Raising.raise (.experience "session review requires an approved synthetic sign-in")

/-- The generated session is dropped. -/
def dropSession (s : SsoExperience W) : SsoExperience W :=
  { s with identity := { s.identity with
    sessions := popEntry generatedSessionId s.identity.sessions } }

/-- The rest of `reset`; the journal starts anew. -/
def restart (s : SsoExperience W) : SsoExperience W :=
  { env.setMfa (fun _ => ⟨0, .pending⟩)
      (env.setIdentity (fun identity => { identity with enabled := true }) s) with
    state := {}
    journal := [] }

/-- `reset`. -/
def reset : Step W Unit := do
  Raising.modify dropSession
  let found ← Raising.gets fun s => s.identity.identities.lookup env.config.identity_id
  match found with
  | none => Raising.raise (.key env.config.identity_id)
  | some _ => Raising.modify env.restart

/-! ## Operations -/

/-- The calls of the workflow, and another component that enables or disables the identity. -/
inductive Operation where
  | sign_in (username credential : Json)
  | decide_mfa (challenge_id decision : Json)
  | review_sessions
  | reset
  | set_enabled (enabled : Bool)

/-- The call that an operation makes. -/
def call : Operation → Step W Unit
  | .sign_in username credential => env.signIn username credential >>= fun _ => pure ()
  | .decide_mfa challenge_id decision => env.decideMfa challenge_id decision >>= fun _ => pure ()
  | .review_sessions => env.reviewSessions >>= fun _ => pure ()
  | .reset => env.reset
  | .set_enabled enabled =>
      Raising.modify (env.setIdentity fun identity => { identity with enabled := enabled })

/-- The state after an operation, whether it returned or raised. -/
def perform (op : Operation) (s : SsoExperience W) : SsoExperience W := (env.call op s).2

end Sso

end NetStrike.Dashboard
