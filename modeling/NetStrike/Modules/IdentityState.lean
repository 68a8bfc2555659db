import NetStrike.Shared.SimulatedActions

/-!
# The synthetic identity state

`SyntheticIdentityState` of `modules/04-mfa-fatigue-sim/identity_actions.py`. Its dictionaries are
lists in insertion order. A change saves what it overwrites in `_rollbacks`, under a token that can
be used once: one entry of one collection, or for the reset all four collections.
-/

set_option autoImplicit false

namespace NetStrike.Modules

open NetStrike.Foundation NetStrike.Shared

/-! ## State -/

/-- An entry of `identities`; `profile` is what the profile metadata make of the display name. -/
structure Identity where
  profile : JsonObject
  enabled : Bool
  credential_version : Int
  synthetic : Bool
deriving DecidableEq

/-- An entry of `sessions`; only the sessions of a sign-in have a kind. -/
structure IdentitySession where
  identity_id : String
  active : Bool
  kind : Option String := none
deriving DecidableEq

/-- An entry of `factors`. -/
structure Factor where
  identity_id : String
  active : Bool
  kind : String
deriving DecidableEq

/-- The decision on a challenge. -/
inductive MfaDecision where
  | pending
  | approved
  | denied
  | expired
  | blocked
  | cancelled
deriving DecidableEq

/-- The name of the decision. -/
def MfaDecision.value : MfaDecision → String
  | pending => "pending"
  | approved => "approved"
  | denied => "denied"
  | expired => "expired"
  | blocked => "blocked"
  | cancelled => "cancelled"

/-- An entry of `mfa`. -/
structure MfaRecord where
  push_count : Int
  decision : MfaDecision
deriving DecidableEq

/-- The four collections: what `snapshot` copies. -/
structure IdentitySections where
  identities : List (String × Identity)
  sessions : List (String × IdentitySession)
  factors : List (String × Factor)
  mfa : List (String × MfaRecord)
deriving DecidableEq

/-- What a token of `_rollbacks` restores. -/
inductive SavedIdentity where
  | identity (item_id : String) (previous : Identity)
  | session (item_id : String) (previous : IdentitySession)
  | factor (item_id : String) (previous : Factor)
  | mfa (item_id : String) (previous : MfaRecord)
  | state (previous : IdentitySections)
deriving DecidableEq

/-- `SyntheticIdentityState`. -/
structure SyntheticIdentityState extends IdentitySections where
  rollbacks : List (String × SavedIdentity)
  rollback_sequence : Nat
  profile_metadata : JsonObject
deriving DecidableEq

namespace SyntheticIdentityState

/-- `{"display_name": "Sarah Mitchell", **profile_metadata}` without the keys that the fixture sets
itself. -/
def profile (profile_metadata : JsonObject) : JsonObject :=
  (profile_metadata.foldl (fun profile entry => setEntry entry.1 entry.2 profile)
    [("display_name", .str "Sarah Mitchell")]).filter fun entry =>
      entry.1 ∉ ["enabled", "credential_version", "synthetic"]

/-- The collections of the fixture. -/
def fixture (profile_metadata : JsonObject) : IdentitySections where
  identities := [("sarah", ⟨profile profile_metadata, true, 1, true⟩)]
  sessions := [("sess-red-01", ⟨"sarah", true, none⟩), ("sess-sarah-01", ⟨"sarah", true, none⟩)]
  factors := [("factor-red-01", ⟨"sarah", true, "simulated_push"⟩)]
  mfa := [("sarah", ⟨0, .pending⟩)]

/-- `baseline`. -/
def baseline (profile_metadata : JsonObject) : SyntheticIdentityState where
  toIdentitySections := fixture profile_metadata
  rollbacks := []
  rollback_sequence := 0
  profile_metadata := profile_metadata

/-! ## Changes -/

/-- The next token. -/
def token (s : SyntheticIdentityState) : String := s!"identity-rb-{s.rollback_sequence + 1}"

/-- Save what a change overwrites. -/
def save (saved : SavedIdentity) (s : SyntheticIdentityState) : SyntheticIdentityState :=
  { s with
    rollback_sequence := s.rollback_sequence + 1
    rollbacks := setEntry s.token saved s.rollbacks }

/-- `_save_rollback`; `saved` is what the entry of the collection makes of the token. -/
def saveRollback {α : Type} (collection item_id : String)
    (entries : SyntheticIdentityState → List (String × α)) (saved : α → SavedIdentity) :
    Py SyntheticIdentityState (String × α) := do
  let found ← Raising.gets fun s => (entries s).lookup item_id
  match found with
  | none => Raising.raise (.of .ActionContractError
      s!"unknown synthetic target: {collection}:{item_id}")
  | some previous =>
      let token ← Raising.gets token
      Raising.modify (save (saved previous))
      return (token, previous)

/-- `set_value` for the field `active` of a session. -/
def setSession (item_id : String) (active : Bool) : Py SyntheticIdentityState String := do
  let (token, session) ← saveRollback "sessions" item_id (fun s => s.sessions) (.session item_id)
  Raising.modify fun s =>
    { s with sessions := setEntry item_id { session with active := active } s.sessions }
  return token

/-- `set_value` for the field `active` of a factor. -/
def setFactor (item_id : String) (active : Bool) : Py SyntheticIdentityState String := do
  let (token, factor) ← saveRollback "factors" item_id (fun s => s.factors) (.factor item_id)
  Raising.modify fun s =>
    { s with factors := setEntry item_id { factor with active := active } s.factors }
  return token

/-- `set_value` for the field `enabled` of an identity. -/
def setEnabled (item_id : String) (enabled : Bool) : Py SyntheticIdentityState String := do
  let (token, identity) ←
    saveRollback "identities" item_id (fun s => s.identities) (.identity item_id)
  Raising.modify fun s =>
    { s with identities := setEntry item_id { identity with enabled := enabled } s.identities }
  return token

/-- `reset_credential`. -/
def resetCredential (identity_id : String) : Py SyntheticIdentityState String := do
  let (token, identity) ←
    saveRollback "identities" identity_id (fun s => s.identities) (.identity identity_id)
  Raising.modify fun s => { s with
    identities := setEntry identity_id
      { identity with credential_version := identity.credential_version + 1 } s.identities }
  return token

/-- `record_push`. -/
def recordPush (identity_id : String) : Py SyntheticIdentityState String := do
  let (token, record) ← saveRollback "mfa" identity_id (fun s => s.mfa) (.mfa identity_id)
  Raising.modify fun s =>
    { s with mfa := setEntry identity_id ⟨record.push_count + 1, .pending⟩ s.mfa }
  return token

/-- `record_decision`. -/
def recordDecision (identity_id : String) (approved : Bool) : Py SyntheticIdentityState String := do
  let (token, record) ← saveRollback "mfa" identity_id (fun s => s.mfa) (.mfa identity_id)
  Raising.modify fun s => { s with
    mfa := setEntry identity_id
      { record with decision := if approved then .approved else .denied } s.mfa }
  return token

/-- `reset_to_baseline`. -/
def resetToBaseline : Py SyntheticIdentityState String := do
  let token ← Raising.gets token
  Raising.modify fun s => save (.state s.toIdentitySections) s
  Raising.modify fun s => { s with toIdentitySections := fixture s.profile_metadata }
  return token

/-- `readiness_mismatches`. -/
def readinessMismatches (s : SyntheticIdentityState) : List String :=
  [("identities", decide (s.identities = (fixture s.profile_metadata).identities)),
    ("sessions", decide (s.sessions = (fixture s.profile_metadata).sessions)),
    ("factors", decide (s.factors = (fixture s.profile_metadata).factors)),
    ("mfa", decide (s.mfa = (fixture s.profile_metadata).mfa))].filterMap fun entry =>
      if entry.2 then none else some entry.1

/-! ## Rollback -/

/-- Put back what was saved. -/
def SavedIdentity.restore : SavedIdentity → IdentitySections → IdentitySections
  | .identity item_id previous, s => { s with identities := setEntry item_id previous s.identities }
  | .session item_id previous, s => { s with sessions := setEntry item_id previous s.sessions }
  | .factor item_id previous, s => { s with factors := setEntry item_id previous s.factors }
  | .mfa item_id previous, s => { s with mfa := setEntry item_id previous s.mfa }
  | .state previous, _ => previous

/-- What the rollback reports. -/
def SavedIdentity.changes : SavedIdentity → List String
  | .identity item_id _ => [s!"restored identities:{item_id}"]
  | .session item_id _ => [s!"restored sessions:{item_id}"]
  | .factor item_id _ => [s!"restored factors:{item_id}"]
  | .mfa item_id _ => [s!"restored mfa:{item_id}"]
  | .state _ => ["restored pre-reset identity state"]

/-- `rollback` after its checkpoint. -/
def rollback (token : String) : Py SyntheticIdentityState (List String) := do
  let found ← Raising.gets fun s => s.rollbacks.lookup token
  match found with
  | none => Raising.raise (.of .ActionContractError "unknown or already-used rollback token")
  | some saved =>
      Raising.modify fun s => { s with
        toIdentitySections := SavedIdentity.restore saved s.toIdentitySections
        rollbacks := popEntry token s.rollbacks }
      return SavedIdentity.changes saved

end SyntheticIdentityState

end NetStrike.Modules
