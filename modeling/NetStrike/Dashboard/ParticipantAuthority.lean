import NetStrike.Dashboard.ParticipantSession
import Mathlib.Data.List.Basic

/-!
# What the parts of a session's methods do

`Lowered` says what every part of a method may do to the session that neither confirms a run nor
starts or ends a write: the counters only grow, a change of the credential or the epoch moves the
serial, and the state is kept or dropped. `current_eq_true` is what a method knows after its check.
-/

set_option autoImplicit false

namespace NetStrike.Dashboard

open NetStrike.Foundation

/-! ## What a part of a method does -/

namespace ParticipantSession

/-- The counters grow, and the credential and epoch stand as long as the serial does. -/
structure Advances (s s' : ParticipantSession) : Prop where
  epoch_le : s.epoch ≤ s'.epoch
  serial_le : s.serial ≤ s'.serial
  steady : s'.serial = s.serial → s'.credential = s.credential ∧ s'.epoch = s.epoch

/-- Besides, the pending write is kept, and the state is kept or dropped. -/
structure Lowered (s s' : ParticipantSession) : Prop extends Advances s s' where
  pendingWrite : s'.pendingWrite = s.pendingWrite
  state : s'.state = s.state ∨ s'.state = none

variable {s s' s'' : ParticipantSession}

theorem Advances.refl (s : ParticipantSession) : Advances s s :=
  ⟨le_refl _, le_refl _, fun _ => ⟨rfl, rfl⟩⟩

theorem Advances.trans (h : Advances s s') (h' : Advances s' s'') : Advances s s'' := by
  refine ⟨h.epoch_le.trans h'.epoch_le, h.serial_le.trans h'.serial_le, fun hserial => ?_⟩
  have h1 := h.serial_le
  have h2 := h'.serial_le
  obtain ⟨hcredential', hepoch'⟩ := h'.steady (by omega)
  obtain ⟨hcredential, hepoch⟩ := h.steady (by omega)
  exact ⟨hcredential'.trans hcredential, hepoch'.trans hepoch⟩

theorem Lowered.refl (s : ParticipantSession) : Lowered s s := ⟨.refl s, rfl, .inl rfl⟩

theorem Lowered.trans (h : Lowered s s') (h' : Lowered s' s'') : Lowered s s'' := by
  refine ⟨h.toAdvances.trans h'.toAdvances, h'.pendingWrite.trans h.pendingWrite, ?_⟩
  rcases h'.state with hstate | hstate
  · rw [hstate]
    exact h.state
  · exact .inr hstate

theorem lowered_invalidate (s : ParticipantSession) : Lowered s s.invalidate :=
  ⟨⟨Nat.le_succ _, Nat.le_succ _, fun h => absurd h (Nat.succ_ne_self _)⟩, rfl, .inr rfl⟩

theorem sync_of_eq {token : String} (h : token = s.credential) : s.sync token = s := by
  simp [sync, h]

theorem sync_of_ne {token : String} (h : token ≠ s.credential) :
    s.sync token = invalidate { s with credential := token } := by
  simp [sync, h]

theorem credential_sync (token : String) (s : ParticipantSession) :
    (s.sync token).credential = token := by
  by_cases h : token = s.credential
  · rw [sync_of_eq h, h]
  · rw [sync_of_ne h]
    rfl

theorem lowered_sync (token : String) (s : ParticipantSession) : Lowered s (s.sync token) := by
  by_cases h : token = s.credential
  · rw [sync_of_eq h]
    exact .refl s
  · rw [sync_of_ne h]
    exact ⟨⟨Nat.le_succ _, Nat.le_succ _, fun h => absurd h (Nat.succ_ne_self _)⟩, rfl, .inr rfl⟩

theorem lowered_current (token credential : String) (epoch : Nat) (s : ParticipantSession) :
    Lowered s (s.current token credential epoch).2 := by
  unfold current
  split
  · exact .refl s
  · exact lowered_sync token s

/-- What a method may rely on when its context is current: nothing was synchronised since. -/
theorem current_eq_true {token credential : String} {epoch : Nat} (hepoch : epoch ≤ s.epoch)
    (h : (s.current token credential epoch).1 = true) :
    token = credential ∧ s.credential = token ∧ s.epoch = epoch ∧
      (s.current token credential epoch).2 = s := by
  unfold current at h ⊢
  split at h
  · cases h
  · next hne =>
      obtain ⟨htoken, hsame⟩ := of_decide_eq_true h
      by_cases hsync : token = s.credential
      · rw [sync_of_eq hsync] at hsame ⊢
        rw [if_neg hne]
        exact ⟨htoken, hsync.symm, hsame, rfl⟩
      · rw [sync_of_ne hsync] at hsame
        have hbumped : s.epoch + 1 = epoch := hsame
        omega

theorem lowered_denied (status : Option Nat) (s : ParticipantSession) :
    Lowered s (if denies status then s.invalidate else s) := by
  split
  · exact lowered_invalidate s
  · exact .refl s

theorem lowered_refreshFailed (token credential : String) (epoch serial : Nat)
    (status : Option Nat) (message : String) (s : ParticipantSession) :
    Lowered s (s.refreshFailed token credential epoch serial status message).2 := by
  have hcurrent := lowered_current token credential epoch s
  unfold refreshFailed
  dsimp only
  split
  · exact hcurrent
  · have hdropped : Lowered (s.current token credential epoch).2
        { (s.current token credential epoch).2 with state := none } :=
      ⟨⟨le_refl _, le_refl _, fun _ => ⟨rfl, rfl⟩⟩, rfl, .inr rfl⟩
    exact (hcurrent.trans hdropped).trans (lowered_denied status _)

theorem lowered_readCurrent (token path : String) (ctx : Context) (owner : ReadOwner)
    (s : ParticipantSession) : Lowered s (s.readCurrent token path ctx owner).2 :=
  lowered_current token ctx.credential ctx.epoch s

theorem lowered_endRead (token path : String) (runScoped : Bool) (ctx : Context)
    (owner : ReadOwner) (response : Response) (s : ParticipantSession) :
    Lowered s (s.endRead token path runScoped ctx owner response).2 := by
  have hcurrent := lowered_readCurrent token path ctx owner s
  unfold endRead
  cases response with
  | error status message =>
      dsimp only
      split
      · exact hcurrent
      · exact hcurrent.trans (lowered_denied status _)
  | ok result =>
      dsimp only
      split
      · exact hcurrent
      · split
        · exact hcurrent.trans (lowered_invalidate _)
        · exact hcurrent

theorem lowered_writeCurrent (token : String) (ctx : Context) (s : ParticipantSession) :
    Lowered s (s.writeCurrent token ctx).2 :=
  lowered_current token ctx.credential ctx.epoch s

theorem lowered_writeFailed (token : String) (ctx : Context) (status : Option Nat)
    (message : String) (s : ParticipantSession) :
    Lowered s (s.writeFailed token ctx status message).2 := by
  have hcurrent := lowered_writeCurrent token ctx s
  unfold writeFailed
  dsimp only
  split
  · exact hcurrent
  · exact hcurrent.trans (lowered_denied status _)

theorem lowered_writeAnswered (token : String) (ctx : Context) (response : Response)
    (s : ParticipantSession) : Lowered s (s.writeAnswered token ctx response).2 := by
  have hcurrent := lowered_writeCurrent token ctx s
  unfold writeAnswered
  cases response with
  | error status message => exact lowered_writeFailed token ctx status message s
  | ok result =>
      dsimp only
      split
      · exact hcurrent
      · split
        · exact (hcurrent.trans (lowered_invalidate _)).trans (lowered_writeFailed ..)
        · exact hcurrent

/-- A start or an end of a write leaves no refresh current. -/
theorem advances_barrier (pendingWrite : Option Context) (s : ParticipantSession) :
    Advances s (s.barrier pendingWrite) :=
  ⟨le_refl _, Nat.le_succ _, fun h => absurd h (Nat.succ_ne_self _)⟩

theorem lowered_context (token : String) (s : ParticipantSession) :
    Lowered s (s.context token).2 := by
  unfold context
  dsimp only
  split <;> exact lowered_sync token s

/-- The context that a method remembers is the one of the session. -/
theorem context_eq_ok {token : String} {ctx : Context} (h : (s.context token).1 = .ok ctx) :
    ctx = ⟨(s.context token).2.credential, (s.context token).2.epoch,
      (s.context token).2.runId⟩ := by
  unfold context at h ⊢
  dsimp only at h ⊢
  split at h
  · cases h
  · next hsome =>
      injection h with h
      rw [if_neg hsome, ← h]

/-- `read` starts in the context of the session and leaves the rest alone. -/
theorem beginRead_cases (token path : String) (identity : Nat) (s : ParticipantSession) :
    Lowered s (s.beginRead token path identity).2 ∧
      ∀ ctx owner, (s.beginRead token path identity).1 = .ok (ctx, owner) →
        ctx = ⟨(s.beginRead token path identity).2.credential,
          (s.beginRead token path identity).2.epoch, (s.beginRead token path identity).2.runId⟩ := by
  have hlowered := lowered_context token s
  have hok := @context_eq_ok s token
  unfold beginRead
  rcases hcontext : s.context token with ⟨result, s'⟩
  rw [hcontext] at hlowered hok
  cases result with
  | error message => exact ⟨hlowered, nofun⟩
  | ok ctx =>
      refine ⟨?_, fun ctx' owner heq => ?_⟩
      · refine hlowered.trans ⟨⟨le_refl _, le_refl _, fun _ => ⟨rfl, rfl⟩⟩, rfl, .inl rfl⟩
      · injection heq with heq
        injection heq with heq _
        subst heq
        exact hok rfl

/-- `write` starts only when no other write is pending. -/
theorem beginWrite_cases (token : String) (s : ParticipantSession) :
    (∃ message, (s.beginWrite token).1 = .error message ∧ Lowered s (s.beginWrite token).2) ∨
      ∃ ctx, (s.beginWrite token).1 = .ok ctx ∧ s.pendingWrite = none ∧
        Advances s (s.beginWrite token).2 ∧ s.serial < (s.beginWrite token).2.serial ∧
        (s.beginWrite token).2.pendingWrite = some ctx ∧ (s.beginWrite token).2.state = none ∧
        ctx = ⟨(s.beginWrite token).2.credential, (s.beginWrite token).2.epoch,
          (s.beginWrite token).2.runId⟩ := by
  have hsync := lowered_sync token s
  have hlowered := hsync.trans (lowered_context token (s.sync token))
  have hok := @context_eq_ok (s.sync token) token
  unfold beginWrite
  dsimp only
  split
  · exact .inl ⟨_, rfl, hsync⟩
  · next hnone =>
      rcases hcontext : (s.sync token).context token with ⟨result, s'⟩
      rw [hcontext] at hlowered hok
      cases result with
      | error message => exact .inl ⟨message, rfl, hlowered⟩
      | ok ctx =>
          refine .inr ⟨ctx, rfl, ?_, hlowered.toAdvances.trans (advances_barrier _ _), ?_, rfl, rfl,
            hok rfl⟩
          · rw [← hsync.pendingWrite]
            simpa using hnone
          · exact Nat.lt_succ_of_le hlowered.serial_le

/-- A refresh ends with nothing confirmed, or it confirms a valid state in a session that has not
changed its credential, epoch or serial since the refresh began. -/
theorem endRefresh_cases {token credential : String} {epoch serial : Nat} (hepoch : epoch ≤ s.epoch)
    (response : Response) :
    (Lowered s (s.endRefresh token credential epoch serial response).2 ∧
        ∀ body, (s.endRefresh token credential epoch serial response).1 ≠ .value body) ∨
      ∃ state, validState state = true ∧
        (s.endRefresh token credential epoch serial response).1 = .value state ∧
        Advances s (s.endRefresh token credential epoch serial response).2 ∧
        (s.endRefresh token credential epoch serial response).2.pendingWrite = s.pendingWrite ∧
        token = credential ∧ s.epoch = epoch ∧ s.serial = serial := by
  have hfailed : ∀ status message (s' : ParticipantSession) body,
      (s'.refreshFailed token credential epoch serial status message).1 ≠ .value body := by
    intro status message s' body
    unfold refreshFailed
    dsimp only
    split <;> exact nofun
  have hcurrent := lowered_current token credential epoch s
  unfold endRefresh
  cases response with
  | error status message => exact .inl ⟨lowered_refreshFailed .., hfailed _ _ _⟩
  | ok state =>
      dsimp only
      split
      · exact .inl ⟨hcurrent, nofun⟩
      · next hgood =>
          rw [not_or, not_not, not_not] at hgood
          obtain ⟨htoken, -, hsame, hcurrentEq⟩ := current_eq_true hepoch hgood.1
          rw [hcurrentEq] at hgood ⊢
          split
          · next hvalid =>
              refine .inr ⟨state, hvalid, rfl, ?_, ?_, htoken, hsame, hgood.2.symm⟩
              · unfold confirm
                dsimp only
                split
                · exact ⟨Nat.le_succ _, Nat.le_succ _, fun h => absurd h (Nat.succ_ne_self _)⟩
                · exact ⟨le_refl _, le_refl _, fun _ => ⟨rfl, rfl⟩⟩
              · unfold confirm
                dsimp only
                split <;> rfl
          · exact .inl ⟨lowered_refreshFailed .., hfailed _ _ _⟩

/-- A read that returns a value does so in the context it began in. -/
theorem endRead_eq_value {token path : String} {runScoped : Bool} {ctx : Context}
    {owner : ReadOwner} {response : Response} {body : Json} (hepoch : ctx.epoch ≤ s.epoch)
    (h : (s.endRead token path runScoped ctx owner response).1 = .value body) :
    ctx = ⟨token, s.epoch, s.runId⟩ := by
  have hmain : (s.readCurrent token path ctx owner).1 = true := by
    unfold endRead at h
    cases response with
    | error status message =>
        dsimp only at h
        split at h <;> cases h
    | ok result =>
        dsimp only at h
        split at h
        · cases h
        · next hcurrent => simpa using hcurrent
  have hparts : (s.current token ctx.credential ctx.epoch).1 = true ∧
      (s.current token ctx.credential ctx.epoch).2.runId = ctx.runId := by
    unfold readCurrent at hmain
    simp only [Bool.and_eq_true, decide_eq_true_eq] at hmain
    exact ⟨hmain.1, hmain.2.1⟩
  obtain ⟨htoken, -, hsame, hcurrent⟩ := current_eq_true hepoch hparts.1
  rw [hcurrent] at hparts
  rw [htoken, hsame, hparts.2]

/-- A write that returns a value does so in the context it began in. -/
theorem endWrite_eq_value {token : String} {ctx : Context} {response : Response} {body : Json}
    (hepoch : ctx.epoch ≤ s.epoch) (h : (s.endWrite token ctx response).1 = .value body) :
    ctx = ⟨token, s.epoch, s.runId⟩ := by
  have hfailed : ∀ status message (s' : ParticipantSession),
      (s'.writeFailed token ctx status message).1 ≠ .value body := by
    intro status message s'
    unfold writeFailed
    dsimp only
    split <;> exact nofun
  have hmain : (s.writeCurrent token ctx).1 = true := by
    have h : (s.writeAnswered token ctx response).1 = .value body := h
    unfold writeAnswered at h
    cases response with
    | error status message => exact absurd h (hfailed _ _ _)
    | ok result =>
        dsimp only at h
        split at h
        · cases h
        · next hcurrent => simpa using hcurrent
  have hparts : (s.current token ctx.credential ctx.epoch).1 = true ∧
      (s.current token ctx.credential ctx.epoch).2.runId = ctx.runId := by
    unfold writeCurrent at hmain
    simpa using hmain
  obtain ⟨htoken, -, hsame, hcurrent⟩ := current_eq_true hepoch hparts.1
  rw [hcurrent] at hparts
  rw [htoken, hsame, hparts.2]

end ParticipantSession

end NetStrike.Dashboard
