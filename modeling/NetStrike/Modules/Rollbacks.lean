import NetStrike.Modules.EndpointActions
import NetStrike.Orchestrator.CloudActions
import NetStrike.Shared.TokenTable

/-!
# Rollback of the actions on the simulated systems

The identity state saves the entry that a change overwrites, or for the reset all collections; the
endpoint state and the mock cloud save a snapshot each time. All three are token tables, so rollbacks
in reverse order restore what was there before (`rollbacks_undo_in_order`). An action whose request id
is used again loses its token (`reused_request_id_keeps_change`).
-/

set_option autoImplicit false

namespace NetStrike.Modules

open NetStrike.Foundation NetStrike.Shared NetStrike.Orchestrator

/-! ## Identity state -/

/-- The tokens of the identity state. -/
def identityTable : TokenTable SyntheticIdentityState IdentitySections SavedIdentity where
  view := fun s => s.toIdentitySections
  entries := fun s => s.rollbacks
  sequence := fun s => s.rollback_sequence
  stem := "identity-rb-"
  restore := SyntheticIdentityState.SavedIdentity.restore
  stem_given := by decide

namespace IdentityActions

open SyntheticIdentityState

/-- A change of the identity state saves what it overwrites, or raises and changes nothing. -/
def Reversible (change : Py SyntheticIdentityState String) : Prop :=
  ∀ s, (∃ e, change s = (.error e, s)) ∨
    ∃ value s', change s = (.ok (identityTable.token (s.rollback_sequence + 1)), s') ∧
      identityTable.Captures value s s' ∧
      SavedIdentity.restore value s'.toIdentitySections = s.toIdentitySections

theorem saves_changing {change : Py SyntheticIdentityState String} (h : Reversible change)
    (effect : String) : identityTable.undoable.Saves (changing effect change) := by
  refine identityTable.saves_of_ends fun s => ?_
  rcases h s with ⟨e, hraised⟩ | ⟨value, s', hchange, hcaptures, hrestore⟩
  · have hbody : changing effect change s = (.error e, s) := Raising.bind_of_error hraised
    rw [hbody]
    exact .raised e ⟨rfl, rfl⟩
  · have hbody : changing effect change s =
        (.ok ⟨[effect], some (identityTable.token (s.rollback_sequence + 1)), []⟩, s') :=
      Raising.bind_of_ok hchange
    rw [hbody]
    exact .saved [effect] value hcaptures hrestore

/-- A change of one entry that leaves the table of tokens alone. -/
theorem reversible_entry {α : Type} (collection item_id : String)
    (entries : SyntheticIdentityState → List (String × α)) (saved : α → SavedIdentity)
    (write : α → SyntheticIdentityState → SyntheticIdentityState)
    (htable : ∀ previous s, (write previous s).rollbacks = s.rollbacks ∧
      (write previous s).rollback_sequence = s.rollback_sequence)
    (hrestore : ∀ s previous, (entries s).lookup item_id = some previous →
      SavedIdentity.restore (saved previous)
        (write previous (save (saved previous) s)).toIdentitySections = s.toIdentitySections) :
    Reversible (do
      let (token, previous) ← saveRollback collection item_id entries saved
      Raising.modify (write previous)
      return token) := by
  intro s
  cases hfound : (entries s).lookup item_id with
  | none =>
      have hraised : saveRollback collection item_id entries saved s =
          (.error (.of .ActionContractError s!"unknown synthetic target: {collection}:{item_id}"),
            s) := by
        unfold saveRollback
        rw [Raising.gets_bind_apply, hfound]
        rfl
      exact Or.inl ⟨_, Raising.bind_of_error hraised⟩
  | some previous =>
      have hsave : saveRollback collection item_id entries saved s =
          (.ok (s.token, previous), save (saved previous) s) := by
        unfold saveRollback
        rw [Raising.gets_bind_apply, hfound]
        rfl
      refine Or.inr ⟨saved previous, write previous (save (saved previous) s),
        Raising.bind_of_ok hsave, ⟨?_, ?_⟩, hrestore s previous hfound⟩
      · exact (htable previous _).1
      · exact (htable previous _).2

/-- A change of one identity. -/
theorem reversible_identity (item_id : String) (f : Identity → Identity) : Reversible (do
    let (token, identity) ← saveRollback "identities" item_id (fun s => s.identities)
      (.identity item_id)
    Raising.modify fun s =>
      { s with identities := setEntry item_id (f identity) s.identities }
    return token) := by
  refine reversible_entry "identities" item_id (fun s => s.identities) (.identity item_id)
    (fun identity s => { s with identities := setEntry item_id (f identity) s.identities })
    (fun _ _ => ?_) fun s previous hfound => ?_
  · exact ⟨rfl, rfl⟩
  · simp only [SavedIdentity.restore, save, setEntry_setEntry hfound]

/-- A change of one session. -/
theorem reversible_session (item_id : String) (f : IdentitySession → IdentitySession) :
    Reversible (do
      let (token, session) ← saveRollback "sessions" item_id (fun s => s.sessions)
        (.session item_id)
      Raising.modify fun s => { s with sessions := setEntry item_id (f session) s.sessions }
      return token) := by
  refine reversible_entry "sessions" item_id (fun s => s.sessions) (.session item_id)
    (fun session s => { s with sessions := setEntry item_id (f session) s.sessions })
    (fun _ _ => ?_) fun s previous hfound => ?_
  · exact ⟨rfl, rfl⟩
  · simp only [SavedIdentity.restore, save, setEntry_setEntry hfound]

/-- A change of one factor. -/
theorem reversible_factor (item_id : String) (f : Factor → Factor) : Reversible (do
    let (token, factor) ← saveRollback "factors" item_id (fun s => s.factors) (.factor item_id)
    Raising.modify fun s => { s with factors := setEntry item_id (f factor) s.factors }
    return token) := by
  refine reversible_entry "factors" item_id (fun s => s.factors) (.factor item_id)
    (fun factor s => { s with factors := setEntry item_id (f factor) s.factors })
    (fun _ _ => ?_) fun s previous hfound => ?_
  · exact ⟨rfl, rfl⟩
  · simp only [SavedIdentity.restore, save, setEntry_setEntry hfound]

/-- A change of one record of challenges. -/
theorem reversible_mfa (item_id : String) (f : MfaRecord → MfaRecord) : Reversible (do
    let (token, record) ← saveRollback "mfa" item_id (fun s => s.mfa) (.mfa item_id)
    Raising.modify fun s => { s with mfa := setEntry item_id (f record) s.mfa }
    return token) := by
  refine reversible_entry "mfa" item_id (fun s => s.mfa) (.mfa item_id)
    (fun record s => { s with mfa := setEntry item_id (f record) s.mfa })
    (fun _ _ => ?_) fun s previous hfound => ?_
  · exact ⟨rfl, rfl⟩
  · simp only [SavedIdentity.restore, save, setEntry_setEntry hfound]

theorem reversible_setSession (item_id : String) (active : Bool) :
    Reversible (setSession item_id active) :=
  reversible_session item_id fun session => { session with active := active }

theorem reversible_setFactor (item_id : String) (active : Bool) :
    Reversible (setFactor item_id active) :=
  reversible_factor item_id fun factor => { factor with active := active }

theorem reversible_setEnabled (item_id : String) (enabled : Bool) :
    Reversible (setEnabled item_id enabled) :=
  reversible_identity item_id fun identity => { identity with enabled := enabled }

theorem reversible_resetCredential (identity_id : String) :
    Reversible (SyntheticIdentityState.resetCredential identity_id) :=
  reversible_identity identity_id fun identity =>
    { identity with credential_version := identity.credential_version + 1 }

theorem reversible_recordPush (identity_id : String) :
    Reversible (SyntheticIdentityState.recordPush identity_id) :=
  reversible_mfa identity_id fun record => ⟨record.push_count + 1, .pending⟩

theorem reversible_recordDecision (identity_id : String) (approved : Bool) :
    Reversible (SyntheticIdentityState.recordDecision identity_id approved) :=
  reversible_mfa identity_id fun record =>
    { record with decision := if approved then .approved else .denied }

theorem reversible_resetToBaseline : Reversible SyntheticIdentityState.resetToBaseline := by
  intro s
  exact Or.inr ⟨.state s.toIdentitySections, _, rfl, ⟨rfl, rfl⟩, rfl⟩

theorem saves_validateReadiness (parameters target : JsonObject) :
    identityTable.undoable.Saves (validateReadiness parameters target) := by
  refine identityTable.saves_of_ends fun s => ?_
  unfold validateReadiness
  rw [Raising.gets_bind_apply, Raising.require_bind_apply]
  split_ifs
  · exact .unsaved _ ⟨rfl, rfl⟩ rfl
  · exact .raised _ ⟨rfl, rfl⟩

theorem tokenless_validateReadiness {parameters target : JsonObject}
    {s s' : SyntheticIdentityState} {effect : ActionEffect}
    (h : validateReadiness parameters target s = (.ok effect, s')) :
    truthy effect.rollback_token = none := by
  unfold validateReadiness at h
  rw [Raising.gets_bind_apply, Raising.require_bind_apply] at h
  split_ifs at h <;> cases h
  rfl

/-- The rollback of the identity state restores. -/
theorem restores_rollback : identityTable.undoable.Restores SyntheticIdentityState.rollback := by
  refine identityTable.restores_of_pops (fun token s hfound => ?_) fun token s value hfound => ?_
  · have hlookup : s.rollbacks.lookup token = none := hfound
    refine ⟨.of .ActionContractError "unknown or already-used rollback token", ?_⟩
    unfold SyntheticIdentityState.rollback
    rw [Raising.gets_bind_apply, hlookup]
    rfl
  · have hlookup : s.rollbacks.lookup token = some value := hfound
    refine ⟨SavedIdentity.changes value, { s with
      toIdentitySections := SavedIdentity.restore value s.toIdentitySections
      rollbacks := popEntry token s.rollbacks }, ?_, rfl, rfl, rfl⟩
    unfold SyntheticIdentityState.rollback
    rw [Raising.gets_bind_apply, hlookup]
    rfl

/-- The registered actions save what they overwrite. -/
theorem undoes_registry {W : Type} (monotonic : W → Rat × W) (run_id : String) :
    ∀ definition ∈ (registry monotonic run_id).definitions,
      Adapter.Undoes identityTable.undoable definition := by
  have hundoes : ∀ (body : JsonObject → JsonObject → Py SyntheticIdentityState ActionEffect)
      (definition : ActionDefinition W SyntheticIdentityState),
      definition.handler = simulationHandler monotonic body →
      definition.rollback_handler = rollbackHandler monotonic →
      (∀ parameters target, identityTable.undoable.Saves (body parameters target)) →
      Adapter.Undoes identityTable.undoable definition :=
    fun body definition hhandler hrollback hsaves => ⟨monotonic, body, hhandler,
      fun parameters target => ⟨hsaves parameters target, fun _ _ _ _ _ =>
        Or.inr ⟨monotonic, _, hrollback, restores_rollback⟩⟩⟩
  intro definition hdefinition
  rw [registry] at hdefinition
  fin_cases hdefinition
  · exact hundoes revokeSession _ rfl rfl fun _ _ => saves_changing (reversible_setSession _ _) _
  · exact hundoes removeFactor _ rfl rfl fun _ _ => saves_changing (reversible_setFactor _ _) _
  · exact hundoes disableAccount _ rfl rfl fun _ _ => saves_changing (reversible_setEnabled _ _) _
  · exact hundoes resetCredential _ rfl rfl fun _ _ =>
      saves_changing (reversible_resetCredential _) _
  · exact hundoes recordPush _ rfl rfl fun _ _ => saves_changing (reversible_recordPush _) _
  · exact hundoes recordDecision _ rfl rfl fun _ _ =>
      saves_changing (reversible_recordDecision _ _) _
  · exact hundoes resetIdentity _ rfl rfl fun _ _ =>
      saves_changing reversible_resetToBaseline _
  · -- The readiness action returns no token, so that its rollback is never called.
    refine ⟨monotonic, validateReadiness, rfl, fun parameters target =>
      ⟨saves_validateReadiness parameters target, fun s effect s' request hbody => Or.inl ?_⟩⟩
    exact tokenless_validateReadiness hbody

end IdentityActions

/-! ## Endpoint and directory state -/

/-- The tokens of the endpoint state. -/
def endpointTable : TokenTable EndpointAdState EndpointSections EndpointSections where
  view := fun s => s.toEndpointSections
  entries := fun s => s.rollbacks
  sequence := fun s => s.rollback_sequence
  stem := "endpoint-rb-"
  restore := fun saved _ => saved
  stem_given := by decide

namespace EndpointActions

open EndpointAdState

/-- A change of the endpoint state saves a snapshot under the next token; where it raises, it may
have saved nothing. -/
def Reversible (change : Py EndpointAdState String) : Prop :=
  ∀ s, (∃ e, change s = (.error e, s)) ∨
    ∃ s', endpointTable.Captures s.toEndpointSections s s' ∧
      ((∃ e, change s = (.error e, s')) ∨
        change s = (.ok (endpointTable.token (s.rollback_sequence + 1)), s'))

theorem saves_changing {change : JsonObject → Py EndpointAdState String}
    (h : ∀ target, Reversible (change target)) (effects : JsonObject → String)
    (parameters target : JsonObject) :
    endpointTable.undoable.Saves (changing effects change parameters target) := by
  refine endpointTable.saves_of_ends fun s => ?_
  rcases h target s with ⟨e, hraised⟩ | ⟨s', hcaptures, ⟨e, hraised⟩ | hchange⟩
  · have hbody : changing effects change parameters target s = (.error e, s) :=
      Raising.bind_of_error hraised
    rw [hbody]
    exact .raised e ⟨rfl, rfl⟩
  · have hbody : changing effects change parameters target s = (.error e, s') :=
      Raising.bind_of_error hraised
    rw [hbody]
    exact .captured e s.toEndpointSections hcaptures
  · have hbody : changing effects change parameters target s =
        (.ok ⟨[effects target], some (endpointTable.token (s.rollback_sequence + 1)), []⟩, s') :=
      Raising.bind_of_ok hchange
    rw [hbody]
    exact .saved [effects target] s.toEndpointSections hcaptures rfl

/-- A capture and then an update that does not touch the table. -/
theorem reversible_update (f : EndpointAdState → EndpointAdState)
    (htable : ∀ s, (f s).rollbacks = s.rollbacks ∧ (f s).rollback_sequence = s.rollback_sequence) :
    Reversible (do
      let token ← capture
      Raising.modify f
      return token) := by
  intro s
  exact Or.inr ⟨f (capture s).2, ⟨(htable _).1, (htable _).2⟩, Or.inr rfl⟩

theorem entry_of_none {α : Type} {entries : EndpointAdState → List (String × α)} {key : String}
    {s : EndpointAdState} (h : (entries s).lookup key = none) :
    entry entries key s = (.error (.of .KeyError key), s) := by
  unfold entry
  rw [Raising.gets_bind_apply, h]
  rfl

theorem entry_of_some {α : Type} {entries : EndpointAdState → List (String × α)} {key : String}
    {s : EndpointAdState} {value : α} (h : (entries s).lookup key = some value) :
    entry entries key s = (.ok value, s) := by
  unfold entry
  rw [Raising.gets_bind_apply, h]
  rfl

/-- A capture and then an update of an entry that has to be there. -/
theorem reversible_entry {α : Type} (entries : EndpointAdState → List (String × α)) (key : String)
    (f : α → EndpointAdState → EndpointAdState)
    (htable : ∀ value s, (f value s).rollbacks = s.rollbacks ∧
      (f value s).rollback_sequence = s.rollback_sequence) :
    Reversible (do
      let token ← capture
      let value ← entry entries key
      Raising.modify (f value)
      return token) := by
  intro s
  have hcapture : capture s = (.ok s.token, (capture s).2) := rfl
  rw [Raising.bind_of_ok hcapture]
  cases hfound : (entries (capture s).2).lookup key with
  | none =>
      exact Or.inr ⟨(capture s).2, ⟨rfl, rfl⟩,
        Or.inl ⟨_, Raising.bind_of_error (entry_of_none hfound)⟩⟩
  | some value =>
      exact Or.inr ⟨f value (capture s).2, ⟨(htable _ _).1, (htable _ _).2⟩,
        Or.inr (Raising.bind_of_ok (entry_of_some hfound))⟩

theorem reversible_isolateHost (host_id : String) : Reversible (isolateHost host_id) :=
  reversible_entry (fun s => s.hosts) host_id
    (fun _ s => { s with hosts := setEntry host_id ⟨true, false, true⟩ s.hosts })
    fun _ _ => ⟨rfl, rfl⟩

theorem reversible_preserveArtifact (artifact_id : String) :
    Reversible (preserveArtifact artifact_id) :=
  reversible_entry (fun s => s.artifacts) artifact_id
    (fun artifact s =>
      { s with artifacts := setEntry artifact_id { artifact with preserved := true } s.artifacts })
    fun _ _ => ⟨rfl, rfl⟩

theorem reversible_stopProcess (process_id : String) : Reversible (stopProcess process_id) :=
  reversible_entry (fun s => s.processes) process_id
    (fun process s =>
      { s with processes := setEntry process_id { process with active := false } s.processes })
    fun _ _ => ⟨rfl, rfl⟩

theorem reversible_removePersistence (account_id : String) :
    Reversible (removePersistence account_id) :=
  reversible_update
    (fun s => { s with accounts := setEntry account_id ⟨false, false, []⟩ s.accounts })
    fun _ => ⟨rfl, rfl⟩

theorem reversible_resetToBaseline : Reversible EndpointAdState.resetToBaseline :=
  reversible_update (fun s => { s with toEndpointSections := fixture }) fun _ => ⟨rfl, rfl⟩

/-- `disable_account` checks the account before it captures. -/
theorem reversible_disableAccount (account_id : String) :
    Reversible (EndpointAdState.disableAccount account_id) := by
  intro s
  unfold EndpointAdState.disableAccount
  cases hfound : s.accounts.lookup account_id with
  | none => exact Or.inl ⟨_, Raising.bind_of_error (entry_of_none hfound)⟩
  | some account =>
      rw [Raising.bind_of_ok (entry_of_some hfound), Raising.require_bind_apply]
      split_ifs
      · exact Or.inr ⟨_, ⟨rfl, rfl⟩, Or.inr rfl⟩
      · exact Or.inl ⟨_, rfl⟩

theorem saves_readiness (parameters target : JsonObject) :
    endpointTable.undoable.Saves (readiness parameters target) := by
  refine endpointTable.saves_of_ends fun s => ?_
  unfold readiness
  rw [Raising.gets_bind_apply, Raising.require_bind_apply]
  split_ifs
  · exact .unsaved _ ⟨rfl, rfl⟩ rfl
  · exact .raised _ ⟨rfl, rfl⟩

/-- The rollback of the endpoint state restores. -/
theorem restores_rollback : endpointTable.undoable.Restores EndpointAdState.rollback := by
  refine endpointTable.restores_of_pops (fun token s hfound => ?_) fun token s saved hfound => ?_
  · have hlookup : s.rollbacks.lookup token = none := hfound
    refine ⟨⟨.ActionExecutionError, "Unknown or already-used rollback token",
      some "invalid_rollback"⟩, ?_⟩
    unfold EndpointAdState.rollback
    rw [Raising.gets_bind_apply, hlookup]
    rfl
  · have hlookup : s.rollbacks.lookup token = some saved := hfound
    refine ⟨["restored pre-action endpoint/AD state"], { s with
      toEndpointSections := saved
      rollbacks := popEntry token s.rollbacks }, ?_, rfl, rfl, rfl⟩
    unfold EndpointAdState.rollback
    rw [Raising.gets_bind_apply, hlookup]
    rfl

/-- The registered actions save what they overwrite. -/
theorem undoes_registry {W : Type} (monotonic : W → Rat × W) (run_id : String) :
    ∀ definition ∈ (registry monotonic run_id).definitions,
      Adapter.Undoes endpointTable.undoable definition := by
  have hundoes : ∀ (body : JsonObject → JsonObject → Py EndpointAdState ActionEffect)
      (definition : ActionDefinition W EndpointAdState),
      definition.handler = simulationHandler monotonic body →
      definition.rollback_handler = simulationRollback monotonic EndpointAdState.rollback →
      (∀ parameters target, endpointTable.undoable.Saves (body parameters target)) →
      Adapter.Undoes endpointTable.undoable definition :=
    fun body definition hhandler hrollback hsaves => ⟨monotonic, body, hhandler,
      fun parameters target => ⟨hsaves parameters target, fun _ _ _ _ _ =>
        Or.inr ⟨monotonic, _, hrollback, restores_rollback⟩⟩⟩
  intro definition hdefinition
  rw [registry] at hdefinition
  fin_cases hdefinition
  · exact hundoes isolate _ rfl rfl (saves_changing (fun _ => reversible_isolateHost _) _)
  · exact hundoes preserve _ rfl rfl (saves_changing (fun _ => reversible_preserveArtifact _) _)
  · exact hundoes disable _ rfl rfl (saves_changing (fun _ => reversible_disableAccount _) _)
  · exact hundoes remove _ rfl rfl (saves_changing (fun _ => reversible_removePersistence _) _)
  · exact hundoes stop _ rfl rfl (saves_changing (fun _ => reversible_stopProcess _) _)
  · exact hundoes reset _ rfl rfl (saves_changing (fun _ => reversible_resetToBaseline) _)
  · exact hundoes readiness _ rfl rfl saves_readiness

end EndpointActions

/-! ## Mock cloud -/

/-- The tokens of the mock cloud. -/
def cloudTable : TokenTable SimulatedCloud MockCloud.Snapshot MockCloud.Snapshot where
  view := fun s => s.state.snapshot
  entries := fun s => s.state.rollbacks
  sequence := fun s => s.state.rollback_sequence
  stem := "cloud-rb-"
  restore := fun saved _ => saved
  stem_given := by decide

namespace CloudRollbacks

/-- A change of the mock cloud saves a snapshot under the token that it returns. -/
def Reversible (change : SimulatedCloud → String × MockCloudState) : Prop :=
  ∀ s, (change s).1 = s.state.token ∧
    (change s).2.rollbacks = setEntry s.state.token s.state.snapshot s.state.rollbacks ∧
    (change s).2.rollback_sequence = s.state.rollback_sequence + 1

theorem saves_changing {change : JsonObject → SimulatedCloud → String × MockCloudState}
    (h : ∀ target, Reversible (change target)) (action_id : String)
    (effects : JsonObject → List String) (parameters target : JsonObject) :
    cloudTable.undoable.Saves (SimulatedCloud.logged action_id
      (SimulatedCloud.changing effects change parameters target)) := by
  refine cloudTable.saves_of_ends fun s => ?_
  obtain ⟨htoken, hrollbacks, hsequence⟩ := h target s
  have hbody : SimulatedCloud.changing effects change parameters target s =
      (.ok ⟨effects target, some (cloudTable.token (s.state.rollback_sequence + 1)), []⟩,
        { s with state := (change target s).2 }) := by
    unfold SimulatedCloud.changing
    rw [Raising.step_bind_apply, htoken]
    rfl
  unfold SimulatedCloud.logged
  rw [hbody]
  exact .saved (effects target) s.state.snapshot ⟨hrollbacks, hsequence⟩ rfl

theorem reversible_preserveEvidence :
    Reversible fun s => s.state.preserveEvidence s.audit := by
  intro s
  unfold MockCloudState.preserveEvidence MockCloudState.capture
  dsimp only
  split <;> exact ⟨rfl, rfl, rfl⟩

theorem saves_readiness (sha256 : String → String) (action_id : String)
    (parameters target : JsonObject) :
    cloudTable.undoable.Saves (SimulatedCloud.logged action_id
      (SimulatedCloud.readiness sha256 parameters target)) := by
  refine cloudTable.saves_of_ends fun s => ?_
  unfold SimulatedCloud.logged SimulatedCloud.readiness
  rw [Raising.gets_bind_apply, Raising.require_bind_apply]
  split_ifs
  · exact .unsaved _ ⟨rfl, rfl⟩ rfl
  · exact .raised _ ⟨rfl, rfl⟩

/-- The rollback of the mock cloud restores. -/
theorem restores_rollback : cloudTable.undoable.Restores SimulatedCloud.rollback := by
  refine cloudTable.restores_of_pops (fun token s hfound => ?_) fun token s saved hfound => ?_
  · have hlookup : s.state.rollbacks.lookup token = none := hfound
    refine ⟨⟨.ActionExecutionError, "Unknown or already-used rollback token",
      some "invalid_rollback"⟩, ?_⟩
    unfold SimulatedCloud.rollback MockCloudState.rollback
    rw [Raising.focus_apply, Raising.gets_bind_apply, hlookup]
    rfl
  · have hlookup : s.state.rollbacks.lookup token = some saved := hfound
    refine ⟨["restored pre-action mock-cloud state"], { s with
      state := { s.state with
        toSections := saved.sections
        preserved_evidence := saved.preserved_evidence
        rollbacks := popEntry token s.state.rollbacks } }, ?_, rfl, rfl, rfl⟩
    unfold SimulatedCloud.rollback MockCloudState.rollback
    rw [Raising.focus_apply, Raising.gets_bind_apply, hlookup]
    rfl

/-- The registered actions save what they overwrite. -/
theorem undoes_registry {W : Type} (monotonic : W → Rat × W) (sha256 : String → String)
    (run_id : String) : ∀ definition ∈ (cloudRegistry monotonic sha256 run_id).definitions,
      Adapter.Undoes cloudTable.undoable definition := by
  have hundoes : ∀ (body : JsonObject → JsonObject → Py SimulatedCloud ActionEffect)
      (definition : ActionDefinition W SimulatedCloud),
      definition.handler = simulationHandler monotonic (fun parameters target =>
        SimulatedCloud.logged definition.action_id (body parameters target)) →
      definition.rollback_handler = simulationRollback monotonic SimulatedCloud.rollback →
      (∀ parameters target, cloudTable.undoable.Saves
        (SimulatedCloud.logged definition.action_id (body parameters target))) →
      Adapter.Undoes cloudTable.undoable definition :=
    fun body definition hhandler hrollback hsaves => ⟨monotonic, _, hhandler,
      fun parameters target => ⟨hsaves parameters target, fun _ _ _ _ _ =>
        Or.inr ⟨monotonic, _, hrollback, restores_rollback⟩⟩⟩
  intro definition hdefinition
  rw [cloudRegistry] at hdefinition
  fin_cases hdefinition
  · exact hundoes SimulatedCloud.preserve _ rfl rfl
      (saves_changing (fun _ => reversible_preserveEvidence) _ _)
  · exact hundoes SimulatedCloud.revoke _ rfl rfl
      (saves_changing (fun _ _ => ⟨rfl, rfl, rfl⟩) _ _)
  · exact hundoes SimulatedCloud.disable _ rfl rfl
      (saves_changing (fun _ _ => ⟨rfl, rfl, rfl⟩) _ _)
  · exact hundoes SimulatedCloud.restore _ rfl rfl
      (saves_changing (fun _ _ => ⟨rfl, rfl, rfl⟩) _ _)
  · exact hundoes (SimulatedCloud.reset sha256) _ rfl rfl
      (saves_changing (fun _ _ => ⟨rfl, rfl, rfl⟩) _ _)
  · exact hundoes (SimulatedCloud.readiness sha256) _ rfl rfl (saves_readiness sha256 _)

end CloudRollbacks

/-! ## Rollback in reverse order -/

/-- Rollbacks of the actions on the identity state, on the endpoint state and on the mock cloud undo
in reverse order; the baselines are states to start from. -/
theorem rollbacks_undo_in_order {W : Type} (identity : Adapter W SyntheticIdentityState)
    (endpoint : Adapter W EndpointAdState) (cloud : Adapter W SimulatedCloud)
    (monotonic : W → Rat × W) (sha256 : String → String) (run_id : String) :
    ({ identity with
        registry := IdentityActions.registry monotonic run_id }).UndoesInOrder
          identityTable.undoable ∧
      ({ endpoint with
        registry := EndpointActions.registry monotonic run_id }).UndoesInOrder
          endpointTable.undoable ∧
      ({ cloud with registry := cloudRegistry monotonic sha256 run_id }).UndoesInOrder
        cloudTable.undoable ∧
      (∀ metadata, identityTable.undoable.valid (SyntheticIdentityState.baseline metadata)) ∧
      endpointTable.undoable.valid EndpointAdState.baseline ∧
      ∀ s : SimulatedCloud, s.state = MockCloudState.baseline sha256 →
        cloudTable.undoable.valid s := by
  refine ⟨?_, ?_, ?_, fun _ _ _ => rfl, fun _ _ => rfl, fun s hbaseline n _ => ?_⟩
  · exact Adapter.undoesInOrder _ (IdentityActions.undoes_registry monotonic run_id)
  · exact Adapter.undoesInOrder _ (EndpointActions.undoes_registry monotonic run_id)
  · exact Adapter.undoesInOrder _ (CloudRollbacks.undoes_registry monotonic sha256 run_id)
  · change s.state.rollbacks.lookup _ = none
    rw [hbaseline]
    rfl

/-! ### A request id that is used again -/

/-- An adapter over the identity state whose clock stands still. -/
def identitySample : Adapter Unit SyntheticIdentityState where
  context := ⟨"EX-1", "RUN-1", "action_adapter", "identity-adapter", "1.0.0", none⟩
  registry := IdentityActions.registry (fun w => (0, w)) "RUN-1"
  run_state := fun _ _ => .finish (.ok "running")
  event_sink := fun _ => .finish (.ok ())
  monotonic := .finish 0
  sources := ⟨none, fun w => (⟨true, 0⟩, w), fun w => ("6f1c0e0a-0000-4000-8000-000000000001", w)⟩
  uuid4 := fun w => ("6f1c0e0a-0000-4000-8000-000000000002", w)
  formats := FormatChecker.lenient
  sha256 := fun payload => payload
  float_repr := fun _ => ""
  depth := 1

/-- A request of a responder; all of them have one request id. -/
def identitySampleRequest (idempotency_key action_id : String) (target : JsonObject) : JsonObject :=
  [("schema_version", .str "1.0.0"), ("record_type", .str "request"),
    ("request_id", .str "6f1c0e0a-0000-4000-8000-000000000003"),
    ("idempotency_key", .str idempotency_key), ("timestamp", .str "2026-01-01T00:00:00.000Z"),
    ("exercise_id", .str "EX-1"), ("run_id", .str "RUN-1"),
    ("actor", .obj (entity "person" "responder-1" none (some "identity_responder"))),
    ("action_id", .str action_id), ("target", .obj target), ("parameters", .obj []),
    ("dry_run", .bool false), ("timeout_seconds", .int 10)]

/-- Revoke the session. -/
def revocation : JsonObject :=
  identitySampleRequest "KEY-1" "identity.session.revoke" (entity "session" "sess-red-01" none none)

/-- Remove the factor. -/
def removal : JsonObject :=
  identitySampleRequest "KEY-2" "identity.factor.remove"
    (entity "mfa_factor" "factor-red-01" none none)

/-- The facilitator. -/
def facilitator : JsonObject := entity "person" "facilitator-1" none (some "facilitator")

/-- The removal takes the place of the revocation under their request id: to roll back both of them
leaves the session revoked. -/
theorem reused_request_id_keeps_change :
    ¬ ∀ a log b c, identityTable.undoable.valid a.simulation →
      identitySample.Executed identityTable.undoable.view a log b →
      identitySample.RolledBack log b c →
      identityTable.undoable.view c.simulation = identityTable.undoable.view a.simulation := by
  refine identitySample.not_undone identityTable.undoable revocation removal facilitator
    (identitySample.init () (SyntheticIdentityState.baseline [])) (fun _ _ => rfl) (by decide) ?_
  unfold Adapter.NotUndone
  decide +kernel

end NetStrike.Modules
