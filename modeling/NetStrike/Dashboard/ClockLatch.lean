import NetStrike.Dashboard.ClockFaults
import NetStrike.Foundation.Journal
import NetStrike.Foundation.Runs
import NetStrike.Orchestrator.Scheduler

/-!
# The fault latch

What the calls of `Clock` do to the fault code of the supervisor and to the journal. The fault code
is what the journal last latched (`Latched`), and a fault is latched only where none is.

Inside a guarded method a fault leaves the run stopped or completed (`Inside`), and there every call
of the controller and the scheduler raises. Between the calls a faulted run may have been reset, but
it does not play (`Outside`). Both are kept by every part of a call, so they hold in every state of
a run (`fault_latch_holds`).
-/

set_option autoImplicit false

namespace NetStrike.Dashboard

open NetStrike.Foundation NetStrike.Shared NetStrike.Orchestrator
open NetStrike.Orchestrator.Controller (playable)

/-! ## The journal -/

/-- The latch after a journal entry. -/
def latchStep (latch : Option FaultCode) : ClockEntry → Option FaultCode
  | .latched code => some code
  | .cleared => none
  | .audited _ => latch
  | .scheduler_tick => latch

/-- The code that a journal leaves latched. -/
def latchOf (journal : List ClockEntry) : Option FaultCode := journal.foldl latchStep none

@[simp] theorem latchOf_append_singleton (journal : List ClockEntry) (e : ClockEntry) :
    latchOf (journal ++ [e]) = latchStep (latchOf journal) e := by
  simp [latchOf]

/-- A code is latched where none is, and the event of a fault directly follows its latching. -/
def Proper (before : List ClockEntry) : ClockEntry → Prop
  | .latched _ => latchOf before = none
  | .audited event => event.event_type = "exercise.clock.faulted" ∧
      ∃ earlier code, before = earlier ++ [.latched code]
  | .scheduler_tick => True
  | .cleared => True

/-- What follows a latched code does not change it, up to a reset. -/
theorem latchOf_append_of_not_cleared {journal es : List ClockEntry} {code : FaultCode}
    (hproper : Preceded Proper (journal ++ es)) (hlatched : latchOf journal = some code)
    (hes : ClockEntry.cleared ∉ es) : latchOf (journal ++ es) = some code := by
  induction es using List.reverseRecOn with
  | nil => rwa [List.append_nil]
  | append_singleton es e ih =>
      rw [← List.append_assoc] at hproper ⊢
      rw [List.mem_append, List.mem_singleton, not_or] at hes
      have hlatch := ih (preceded_append.mp hproper).1 hes.1
      rw [latchOf_append_singleton, hlatch]
      have he := hproper (journal ++ es) e [] rfl
      cases e with
      | latched other =>
          rw [show latchOf (journal ++ es) = none from he] at hlatch
          cases hlatch
      | audited event => rfl
      | scheduler_tick => rfl
      | cleared => exact absurd rfl hes.2

namespace Supervision

variable {P R W : Type} (env : Supervision P R W)

/-! ## Invariants -/

/-- The fault code is what the journal latched, and a driven clock is managed. -/
structure Latched (s : Service P R W) : Prop where
  agrees : latchOf s.journal = s.clock.fault_code
  proper : Preceded Proper s.journal
  managed : s.clock.attached = true → s.clock.managed = true

/-- The run is over. -/
def Over (state : RunState) : Prop := state ∉ playable

/-- The run does not play. -/
def Unplayed (state : RunState) : Prop := state ≠ .running ∧ state ≠ .paused

theorem Over.unplayed {state : RunState} (h : Over state) : Unplayed state := by
  constructor
  · rintro rfl
    exact h (by decide)
  · rintro rfl
    exact h (by decide)

/-- The latch agrees with the journal, and a faulted run is idle. -/
structure Safe (Idle : RunState → Prop) (s : Service P R W) : Prop where
  latched : Latched s
  idle : s.clock.fault_code ≠ none → Idle s.controller.state

/-- The step keeps `Safe Idle` and adds entries that satisfy `A` to the journal. -/
structure Moves (A : ClockEntry → Prop) (Idle : RunState → Prop) (s t : Service P R W) : Prop where
  safe : Safe Idle s → Safe Idle t
  grows : ∃ es, t.journal = s.journal ++ es ∧ ∀ e ∈ es, A e

section Moves

variable {A : ClockEntry → Prop} {Idle : RunState → Prop}

instance : Std.Refl (Moves (P := P) (R := R) (W := W) A Idle) :=
  ⟨fun s => ⟨fun h => h, [], (List.append_nil s.journal).symm, fun _ he => (nomatch he)⟩⟩

instance : IsTrans (Service P R W) (Moves A Idle) := by
  refine ⟨fun a b c h h' => ⟨fun ha => h'.safe (h.safe ha), ?_⟩⟩
  obtain ⟨es, hes, hA⟩ := h.grows
  obtain ⟨fs, hfs, hA'⟩ := h'.grows
  refine ⟨es ++ fs, by rw [hfs, hes, List.append_assoc], fun e he => ?_⟩
  rcases List.mem_append.mp he with he | he
  · exact hA e he
  · exact hA' e he

theorem Moves.mono {A' : ClockEntry → Prop} {s t : Service P R W} (h : Moves A Idle s t)
    (hA : ∀ e, A e → A' e) : Moves A' Idle s t := by
  obtain ⟨es, hes, hall⟩ := h.grows
  exact ⟨h.safe, es, hes, fun e he => hA e (hall e he)⟩

/-- Clock and journal differ in nothing that the latch is about, and the run is as idle as before. -/
theorem moves_of_same {s t : Service P R W} (hfault : t.clock.fault_code = s.clock.fault_code)
    (hmanaged : (s.clock.attached = true → s.clock.managed = true) →
      t.clock.attached = true → t.clock.managed = true)
    (hjournal : t.journal = s.journal)
    (hidle : s.clock.fault_code ≠ none → Idle s.controller.state → Idle t.controller.state) :
    Moves A Idle s t := by
  refine ⟨fun h => ⟨⟨?_, ?_, hmanaged h.latched.managed⟩, fun hne => ?_⟩, [], ?_, ?_⟩
  · rw [hjournal, hfault]
    exact h.latched.agrees
  · rw [hjournal]
    exact h.latched.proper
  · rw [hfault] at hne
    exact hidle hne (h.idle hne)
  · rw [hjournal, List.append_nil]
  · exact fun _ he => nomatch he

end Moves

/-! ## What the parts of a call keep -/

/-- Not the clearing of the latch. -/
def Uncleared (e : ClockEntry) : Prop := e ≠ .cleared

theorem Latched.fault {s t : Service P R W} {code : FaultCode} (h : Latched s)
    (hnone : s.clock.fault_code = none) (hfault : Faulted code s t) : Latched t := by
  have hlatch : latchOf s.journal = none := h.agrees.trans hnone
  obtain ⟨es, hjournal, hes⟩ := hfault.journal
  refine ⟨?_, ?_, ?_⟩
  · rw [hjournal, hfault.fault_code, latchOf, List.foldl_append, List.foldl_cons]
    rcases hes with rfl | ⟨event, -, rfl⟩
    · rfl
    · rfl
  · rw [hjournal, preceded_append, preceded_cons, List.append_nil]
    refine ⟨h.proper, hlatch, ?_⟩
    rcases hes with rfl | ⟨event, htype, rfl⟩
    · exact Preceded.nil
    · rw [preceded_cons]
      exact ⟨⟨htype, s.journal, code, rfl⟩, Preceded.nil⟩
  · rw [hfault.attached, hfault.managed]
    exact h.managed

theorem uncleared_of_faulted {s t : Service P R W} {code : FaultCode} (h : Faulted code s t) :
    ∃ es, t.journal = s.journal ++ es ∧ ∀ e ∈ es, Uncleared e := by
  obtain ⟨es, hjournal, hes⟩ := h.journal
  refine ⟨_, hjournal, fun e he => ?_⟩
  rcases List.mem_cons.mp he with rfl | he
  · exact fun h => nomatch h
  · rcases hes with rfl | ⟨event, -, rfl⟩
    · cases he
    · rw [List.mem_singleton.mp he]
      exact fun h => nomatch h

section Idle

variable {Idle : RunState → Prop} (hIdle : ∀ state, Over state → Idle state)

include hIdle

theorem moves_of_faulted {s t : Service P R W} {code : FaultCode}
    (hnone : s.clock.fault_code = none) (h : Faulted code s t) : Moves Uncleared Idle s t :=
  ⟨fun hs => ⟨hs.latched.fault hnone h, fun _ => hIdle _ h.stopped⟩, uncleared_of_faulted h⟩

theorem moves_fault (code : String) : (env.fault code).Keeps (Moves Uncleared Idle) := by
  intro s
  by_cases h : s.clock.fault_code = none
  · obtain ⟨t, heq, hfault⟩ := env.fault_of_none h code
    rw [heq]
    exact moves_of_faulted hIdle h hfault
  · rw [env.fault_of_latched h code]
    exact Std.Refl.refl s

theorem moves_of_halts {s t : Service P R W} (h : Halts s t) : Moves Uncleared Idle s t := by
  have hclock : t.clock = s.clock := by rw [h.rest]
  refine moves_of_same (by rw [hclock]) (by rw [hclock]; exact id) (by rw [h.rest]) fun _ hidle => ?_
  rcases h.state with hstate | hstate
  · rwa [hstate]
  · rw [hstate]
    exact hIdle _ (show RunState.stopped ∉ playable by decide)

theorem moves_failSafeStop (reason : String) (operator : Option JsonObject) :
    (env.failSafeStop reason operator).Keeps (Moves Uncleared Idle) :=
  fun s => moves_of_halts hIdle (env.halts_failSafeStop reason operator s)

end Idle

/-- A reading of the clock. -/
theorem moves_of_provider {A : ClockEntry → Prop} {Idle : RunState → Prop} {s : Service P R W}
    (provider : P) : Moves A Idle s { s with provider } :=
  moves_of_same rfl id rfl fun _ hidle => hidle

theorem moves_reading {A : ClockEntry → Prop} {Idle : RunState → Prop} :
    env.reading.Keeps (Moves A Idle) := fun _ => moves_of_provider _

theorem moves_age {A : ClockEntry → Prop} {Idle : RunState → Prop} :
    env.age.Keeps (Moves A Idle) := by
  intro s
  obtain ⟨age, provider, heq⟩ := env.age_spec s
  rw [heq]
  exact moves_of_provider provider

theorem moves_status {A : ClockEntry → Prop} {Idle : RunState → Prop} :
    env.status.Keeps (Moves A Idle) :=
  Raising.Keeps.bind env.moves_age fun _ => Raising.Keeps.gets _

section Guard

variable {Idle : RunState → Prop} (hIdle : ∀ state, Over state → Idle state)

include hIdle

theorem moves_of_examined {s : Service P R W} {x : Except Exn Unit × Service P R W}
    (h : env.Examined s x) : Moves Uncleared Idle s x.2 := by
  cases h with
  | healthy age provider hage hnone hstatus => exact moves_of_provider provider
  | latched provider hsome => exact moves_of_provider provider
  | faulted provider code t hnone hfault =>
      have hread : Moves Uncleared Idle s { s with provider } := moves_of_provider provider
      have hmoves : Moves Uncleared Idle { s with provider } t := moves_of_faulted hIdle hnone hfault
      exact Trans.trans hread hmoves

theorem moves_requireHealthy : env.requireHealthy.Keeps (Moves Uncleared Idle) :=
  fun s => env.moves_of_examined hIdle (env.examined_requireHealthy s)

/-- Behind the guard no fault is latched, so the body needs to be safe for a run that is over only. -/
theorem moves_guard {body : Py (Service P R W) Unit} (hbody : body.Keeps (Moves Uncleared Over)) :
    (env.guard body).Keeps (Moves Uncleared Idle) := by
  intro s
  have hguard := env.moves_requireHealthy hIdle s
  have hexamined := env.examined_requireHealthy s
  unfold guard
  cases h : env.requireHealthy s with
  | mk r t =>
      rw [h] at hguard hexamined
      cases hexamined with
      | healthy age provider hage hnone hstatus =>
          rw [Raising.bind_of_ok h]
          have hinside := hbody { s with provider }
          refine ⟨fun hs => ?_, hinside.grows⟩
          have hend := hinside.safe ⟨(hguard.safe hs).latched, fun hsome => absurd hnone hsome⟩
          exact ⟨hend.latched, fun hsome => hIdle _ (hend.idle hsome)⟩
      | latched provider hsome =>
          rw [Raising.bind_of_error h]
          exact hguard
      | faulted provider code t hnone hfault =>
          rw [Raising.bind_of_error h]
          exact hguard

end Guard

/-! ## The controller and the scheduler -/

/-- An operation in a run that is over raises and changes nothing, unless it is a reset. -/
theorem call_of_over {op : Controller.Operation} {c : ScenarioController W}
    (hop : ∀ new_run_id, op ≠ .reset new_run_id) (hover : Over c.state) :
    ∃ e, env.controller.call op c = (.error e, c) := by
  have hnot : ∀ allowed : List RunState, allowed ⊆ playable → c.state ∉ allowed :=
    fun allowed hsub hmem => hover (hsub hmem)
  cases op with
  | prepare =>
      refine ⟨_, Raising.bind_of_error (Raising.require_of_neg ?_)⟩
      exact hnot _ (by decide)
  | start =>
      refine ⟨_, Raising.bind_of_error (Raising.bind_of_error (Raising.require_of_neg ?_))⟩
      exact hnot _ (by decide)
  | pause =>
      refine ⟨_, Raising.bind_of_error (Raising.require_of_neg ?_)⟩
      exact hnot _ (by decide)
  | resume =>
      refine ⟨_, Raising.bind_of_error (Raising.require_of_neg ?_)⟩
      exact hnot _ (by decide)
  | advance_to elapsed_seconds =>
      refine ⟨_, Raising.bind_of_error (Raising.require_of_neg ?_)⟩
      exact hnot _ (by decide)
  | deliver item_id =>
      refine ⟨_, Raising.bind_of_error (Raising.require_of_neg ?_)⟩
      exact hover
  | skip item_id reason =>
      refine ⟨_, Raising.bind_of_error (Raising.require_of_neg ?_)⟩
      exact hover
  | resolve_checkpoint checkpoint_id passed evidence_ids reason checks =>
      refine ⟨_, Raising.bind_of_error (Raising.bind_of_error (Raising.require_of_neg ?_))⟩
      exact hnot _ (by decide)
  | fail_safe_stop reason =>
      refine ⟨_, Raising.bind_of_error (Raising.require_of_neg ?_)⟩
      exact hover
  | reset new_run_id => exact absurd rfl (hop new_run_id)

/-- The run stays over. -/
def StaysOver (s t : Service P R W) : Prop :=
  t.clock = s.clock ∧ t.journal = s.journal ∧ (Over s.controller.state → Over t.controller.state)

instance : Std.Refl (StaysOver (P := P) (R := R) (W := W)) := ⟨fun _ => ⟨rfl, rfl, fun h => h⟩⟩

instance : IsTrans (Service P R W) StaysOver :=
  ⟨fun _ _ _ h h' => ⟨h'.1.trans h.1, h'.2.1.trans h.2.1, fun ho => h'.2.2 (h.2.2 ho)⟩⟩

theorem StaysOver.moves {s t : Service P R W} (h : StaysOver s t) : Moves Uncleared Over s t :=
  moves_of_same (by rw [h.1]) (by rw [h.1]; exact id) h.2.1 fun _ hover => h.2.2 hover

theorem staysOver_onController (op : Controller.Operation)
    (hop : ∀ new_run_id, op ≠ .reset new_run_id) :
    (onController (env.controller.call op) : Py (Service P R W) Unit).Keeps StaysOver := by
  refine fun s => ⟨rfl, rfl, fun hover => ?_⟩
  obtain ⟨e, heq⟩ := env.call_of_over hop hover
  show Over (env.controller.call op s.controller).2.state
  rw [heq]
  exact hover

theorem staysOver_reading : env.reading.Keeps StaysOver := fun _ => ⟨rfl, rfl, fun h => h⟩

theorem staysOver_advanceBy (now delta : R) : (env.advanceBy now delta).Keeps StaysOver := by
  refine Raising.Keeps.bind (Raising.Keeps.require _ _) fun _ => ?_
  refine Raising.Keeps.bind (Raising.Keeps.modify fun s => ⟨rfl, rfl, fun h => h⟩) fun _ => ?_
  refine Raising.Keeps.bind (Raising.Keeps.gets _) fun elapsed => ?_
  refine Raising.Keeps.bind (Raising.Keeps.ofExcept _) fun complete_seconds => ?_
  refine Raising.Keeps.bind (Raising.Keeps.modify fun s => ⟨rfl, rfl, fun h => h⟩) fun _ => ?_
  refine Raising.Keeps.bind (Raising.Keeps.gets _) fun elapsed_seconds => ?_
  split
  · exact Raising.Keeps.pure _
  · exact env.staysOver_onController (.advance_to _) fun _ h => nomatch h

theorem staysOver_schedulerTick : env.schedulerTick.Keeps StaysOver := by
  refine Raising.Keeps.bind (Raising.Keeps.gets _) fun state => ?_
  split
  · refine Raising.Keeps.bind env.staysOver_reading fun now => ?_
    refine Raising.Keeps.bind (Raising.Keeps.gets _) fun last_observed => ?_
    split
    · exact Raising.Keeps.modify fun s => ⟨rfl, rfl, fun h => h⟩
    · exact env.staysOver_advanceBy now _
  · exact Raising.Keeps.pure _

theorem staysOver_timing (call : Timing) : (env.timing call).Keeps StaysOver := by
  have hmark : ∀ (f : Service P R W → Service P R W), (∀ s, StaysOver s (f s)) →
      (Raising.modify f : Py (Service P R W) Unit).Keeps StaysOver := fun f hf =>
    Raising.Keeps.modify hf
  cases call with
  | start =>
      refine Raising.Keeps.bind (env.staysOver_onController .start fun _ h => nomatch h)
        fun _ => ?_
      refine Raising.Keeps.bind env.staysOver_reading fun now => ?_
      exact hmark _ fun s => ⟨rfl, rfl, fun h => h⟩
  | pause =>
      refine Raising.Keeps.bind env.staysOver_schedulerTick fun _ => ?_
      refine Raising.Keeps.bind (env.staysOver_onController .pause fun _ h => nomatch h)
        fun _ => ?_
      exact hmark _ fun s => ⟨rfl, rfl, fun h => h⟩
  | resume =>
      refine Raising.Keeps.bind (env.staysOver_onController .resume fun _ h => nomatch h)
        fun _ => ?_
      refine Raising.Keeps.bind env.staysOver_reading fun now => ?_
      exact hmark _ fun s => ⟨rfl, rfl, fun h => h⟩
  | advance_to elapsed_seconds =>
      refine Raising.Keeps.bind
        (env.staysOver_onController (.advance_to elapsed_seconds) fun _ h => nomatch h)
        fun _ => ?_
      refine Raising.Keeps.bind env.staysOver_reading fun now => ?_
      exact hmark _ fun s => ⟨rfl, rfl, fun h => h⟩

/-! ## Methods -/

/-- A change of the world and a look at the state. -/
theorem moves_of_world {A : ClockEntry → Prop} {Idle : RunState → Prop} (s : Service P R W)
    (w : W) : Moves A Idle s { s with controller := { s.controller with world := w } } :=
  moves_of_same rfl id rfl fun _ hidle => hidle

/-- A method keeps a faulted run over. -/
theorem moves_runCode (code : ServiceCode R W) :
    (env.runCode code).Keeps (Moves Uncleared Over) := by
  induction code with
  | finish => exact Raising.Keeps.pure _
  | raise e => exact Raising.Keeps.raise e
  | act effect next ih =>
      exact Raising.Keeps.bind (Raising.Keeps.step fun s => moves_of_world s _) fun w => ih w
  | inspect next ih =>
      exact Raising.Keeps.bind (Raising.Keeps.gets _) fun view =>
        Raising.Keeps.bind (Raising.Keeps.gets _) fun clock => ih view clock
  | fail_safe_stop reason operator next ih =>
      exact Raising.Keeps.bind
        (Raising.Keeps.attempt (env.moves_failSafeStop (fun _ h => h) reason operator)) fun r => ih r
  | guarded body next ihbody ih =>
      exact Raising.Keeps.bind
        (Raising.Keeps.attempt (env.moves_guard (fun _ h => h) ihbody)) fun r => ih r
  | control call next ih =>
      refine Raising.Keeps.bind (Raising.Keeps.attempt fun s => StaysOver.moves ?_) fun r => ih r
      refine env.staysOver_onController _ (fun new_run_id => ?_) s
      cases call <;> exact fun h => nomatch h
  | timed call next ih =>
      exact Raising.Keeps.bind (Raising.Keeps.attempt fun s =>
        (env.staysOver_timing call s).moves) fun r => ih r

/-- A method that calls controller and scheduler inside guarded methods only does not let a faulted
run play. -/
theorem moves_unguarded {Idle : RunState → Prop} (hIdle : ∀ state, Over state → Idle state)
    (code : ServiceCode R W) (h : code.Unguarded) :
    (env.runCode code).Keeps (Moves Uncleared Idle) := by
  induction code with
  | finish => exact Raising.Keeps.pure _
  | raise e => exact Raising.Keeps.raise e
  | act effect next ih =>
      exact Raising.Keeps.bind (Raising.Keeps.step fun s => moves_of_world s _) fun w => ih w (h w)
  | inspect next ih =>
      exact Raising.Keeps.bind (Raising.Keeps.gets _) fun view =>
        Raising.Keeps.bind (Raising.Keeps.gets _) fun clock => ih view clock (h view clock)
  | fail_safe_stop reason operator next ih =>
      exact Raising.Keeps.bind
        (Raising.Keeps.attempt (env.moves_failSafeStop hIdle reason operator)) fun r => ih r (h r)
  | guarded body next ihbody ih =>
      exact Raising.Keeps.bind
        (Raising.Keeps.attempt (env.moves_guard hIdle (env.moves_runCode body))) fun r => ih r (h r)
  | control call next ih => exact h.elim
  | timed call next ih => exact h.elim

/-! ## The driver -/

section Driver

variable {Idle : RunState → Prop} (hIdle : ∀ state, Over state → Idle state)

include hIdle

theorem moves_attach : env.attach.Keeps (Moves Uncleared Idle) := by
  have hanchor : env.anchor.Keeps (Moves Uncleared Idle) := by
    refine Raising.Keeps.bind env.moves_reading fun now => ?_
    refine Raising.Keeps.bind (Raising.Keeps.modify fun s => ?_) fun _ => ?_
    · exact moves_of_same rfl id rfl fun _ hidle => hidle
    refine Raising.Keeps.bind env.moves_age fun age => ?_
    split
    · exact env.moves_fault hIdle _
    · exact Raising.Keeps.pure _
  refine Raising.Keeps.bind (Raising.Keeps.require _ _) fun _ => ?_
  refine Raising.Keeps.bind (Raising.Keeps.modify fun s => ?_) fun _ => ?_
  · exact moves_of_same rfl (fun _ _ => rfl) rfl fun _ hidle => hidle
  refine Raising.Keeps.bind (Raising.Keeps.attempt hanchor) fun outcome => ?_
  cases outcome with
  | ok _ => exact Raising.Keeps.pure _
  | error e => exact env.moves_fault hIdle _

theorem moves_detach : env.detach.Keeps (Moves Uncleared Idle) := by
  refine Raising.Keeps.bind (Raising.Keeps.modify fun s => ?_) fun _ => ?_
  · exact moves_of_same rfl (fun _ h => nomatch h) rfl fun _ hidle => hidle
  refine Raising.Keeps.bind (Raising.Keeps.gets _) fun state => ?_
  split
  · refine Raising.Keeps.bind (Raising.Keeps.attempt (env.moves_failSafeStop hIdle _ _))
      fun outcome => ?_
    cases outcome with
    | ok _ => exact Raising.Keeps.pure _
    | error e => exact env.moves_fault hIdle _
  · exact Raising.Keeps.pure _

end Driver

theorem moves_deliverTime : env.deliverTime.Keeps (Moves Uncleared Over) := by
  have hhealthy : env.requireHealthy.Keeps (Moves Uncleared Over) :=
    env.moves_requireHealthy fun _ h => h
  refine Raising.Keeps.bind hhealthy fun _ => ?_
  refine Raising.Keeps.bind (Raising.Keeps.gets _) fun was_running => ?_
  refine Raising.Keeps.bind (Raising.Keeps.modify fun s => ?_) fun _ => ?_
  · refine ⟨fun h => ⟨⟨?_, ?_, h.latched.managed⟩, h.idle⟩, _, rfl, fun e he => ?_⟩
    · exact (latchOf_append_singleton _ _).trans h.latched.agrees
    · exact preceded_append.mpr ⟨h.latched.proper, preceded_cons.mpr ⟨trivial, Preceded.nil⟩⟩
    · rw [List.mem_singleton.mp he]
      exact fun h => nomatch h
  refine Raising.Keeps.bind (fun s => (env.staysOver_schedulerTick s).moves) fun _ => ?_
  refine Raising.Keeps.bind (Raising.Keeps.require _ _) fun _ => ?_
  refine Raising.Keeps.bind hhealthy fun _ => ?_
  refine Raising.Keeps.bind env.moves_reading fun now => ?_
  refine Raising.Keeps.bind (Raising.Keeps.modify fun s => ?_) fun _ => hhealthy
  exact moves_of_same rfl id rfl fun _ hidle => hidle

/-- The part of a tick that a latched or detached clock skips. -/
def driveTick : Py (Service P R W) Unit := do
  match ← Raising.attempt env.deliverTime with
  | .ok _ => pure ()
  | .error _ => env.fault "scheduler_tick_failed"

theorem tick_apply (s : Service P R W) :
    env.tick s = if s.clock.fault_code.isSome || !s.clock.attached then (.ok (), s)
      else env.driveTick s := by
  unfold tick
  rw [Raising.gets_bind_apply]
  split <;> rfl

theorem moves_tick {Idle : RunState → Prop} (hIdle : ∀ state, Over state → Idle state) :
    env.tick.Keeps (Moves Uncleared Idle) := by
  have hdrive : env.driveTick.Keeps (Moves Uncleared Over) := by
    refine Raising.Keeps.bind (Raising.Keeps.attempt env.moves_deliverTime) fun outcome => ?_
    cases outcome with
    | ok _ => exact Raising.Keeps.pure _
    | error e => exact env.moves_fault (fun _ h => h) _
  intro s
  rw [env.tick_apply]
  split
  · exact Std.Refl.refl s
  · next hidle =>
      -- The tick starts without a fault, so all it does is inside.
      have hnone : s.clock.fault_code = none := by
        cases h : s.clock.fault_code with
        | none => rfl
        | some code =>
            rw [h] at hidle
            exact absurd rfl hidle
      refine ⟨fun hs => ?_, (hdrive s).grows⟩
      have hend := (hdrive s).safe ⟨hs.latched, fun hsome => absurd hnone hsome⟩
      exact ⟨hend.latched, fun hsome => hIdle _ (hend.idle hsome)⟩

/-! ## The reset -/

/-- Any entry of the journal. -/
def Any (_ : ClockEntry) : Prop := True

theorem any_of_uncleared {m : Py (Service P R W) Unit} {Idle : RunState → Prop}
    (h : m.Keeps (Moves Uncleared Idle)) : m.Keeps (Moves Any Idle) :=
  fun s => (h s).mono fun _ _ => trivial

/-- A reset of the controller leaves the state as it is, or makes the run ready. -/
theorem state_reset (new_run_id : Option String) (c : ScenarioController W) :
    (env.controller.reset new_run_id c).2.state = c.state ∨
      (env.controller.reset new_run_id c).2.state = .ready := by
  unfold Controller.reset
  rw [Controller.requireState_bind]
  split
  · refine Or.inr ?_
    rw [Raising.gets_bind_apply, Raising.step_bind_apply, Raising.modify_bind_apply]
    exact (env.controller.emit_frame _ _ _ _ _ _ _ _).1.state
  · exact Or.inl rfl

theorem moves_reset (new_run_id : Option String) :
    (onController (env.controller.reset new_run_id) : Py (Service P R W) Unit).Keeps
      (Moves Any Unplayed) := by
  refine fun s => moves_of_same rfl id rfl fun _ hidle => ?_
  rcases env.state_reset new_run_id s.controller with h | h
  · exact h ▸ hidle
  · show Unplayed (env.controller.reset new_run_id s.controller).2.state
    rw [h]
    exact ⟨fun h => (nomatch h), fun h => (nomatch h)⟩

theorem moves_resetClock {Idle : RunState → Prop} : env.resetClock.Keeps (Moves Any Idle) := by
  refine Raising.Keeps.bind ?_ fun heartbeat => ?_
  · refine Raising.Keeps.bind (Raising.Keeps.gets _) fun attached => ?_
    split
    · refine Raising.Keeps.bind env.moves_reading fun now => ?_
      exact Raising.Keeps.bind (Raising.Keeps.require _ _) fun _ => Raising.Keeps.pure _
    · exact Raising.Keeps.pure _
  · refine fun s => ⟨fun h => ⟨⟨?_, ?_, h.latched.managed⟩, fun hsome => absurd rfl hsome⟩,
      [.cleared], rfl, fun _ _ => trivial⟩
    · exact latchOf_append_singleton _ _
    · exact preceded_append.mpr ⟨h.latched.proper, preceded_cons.mpr ⟨trivial, Preceded.nil⟩⟩

theorem moves_resetRun (reset : Reset R W) : (env.resetRun reset).Keeps (Moves Any Unplayed) := by
  have hcode : ∀ method : UnguardedCode R W,
      (env.runCode method.code).Keeps (Moves Any Unplayed) := fun method =>
    any_of_uncleared (env.moves_unguarded (fun _ h => h.unplayed) method.code method.unguarded)
  refine Raising.Keeps.bind (Raising.Keeps.require _ _) fun _ => ?_
  refine Raising.Keeps.bind (hcode reset.archive) fun _ => ?_
  refine Raising.Keeps.bind (env.moves_reset reset.new_run_id) fun _ => ?_
  refine Raising.Keeps.bind (hcode reset.setup) fun _ => ?_
  refine Raising.Keeps.bind (Raising.Keeps.modify fun s => ?_) fun _ => ?_
  · exact moves_of_same rfl id rfl fun _ hidle => hidle
  refine Raising.Keeps.bind (hcode reset.cleanup) fun _ => ?_
  refine Raising.Keeps.bind env.moves_resetClock fun _ => ?_
  exact Raising.Keeps.bind env.moves_status fun _ => hcode reset.report

/-! ## Calls -/

/-- Every call but a reset keeps the latch and does not clear it. -/
theorem moves_execute {call : Call R W} (hcall : ∀ reset, call ≠ .reset_run reset) :
    (env.execute call).Keeps (Moves Uncleared Unplayed) := by
  have hidle : ∀ state, Over state → Unplayed state := fun _ h => h.unplayed
  cases call with
  | attach => exact env.moves_attach hidle
  | tick => exact env.moves_tick hidle
  | detach => exact env.moves_detach hidle
  | fault code => exact env.moves_fault hidle code
  | snapshot => exact Raising.Keeps.bind env.moves_status fun _ => Raising.Keeps.pure _
  | guarded body => exact env.moves_guard hidle (env.moves_runCode body)
  | unguarded method => exact env.moves_unguarded hidle method.code method.unguarded
  | reset_run reset => exact absurd rfl (hcall reset)

theorem moves_perform (call : Call R W) (s : Service P R W) :
    Moves Any Unplayed s (env.perform call s) := by
  by_cases h : ∃ reset, call = .reset_run reset
  · obtain ⟨reset, rfl⟩ := h
    exact env.moves_resetRun reset s
  · exact (env.moves_execute (fun reset hreset => h ⟨reset, hreset⟩) s).mono fun _ _ => trivial

/-- What the calls of a run do together. -/
theorem moves_runAll (calls : List (Call R W)) (s : Service P R W) :
    Moves Any Unplayed s (runAll env.perform calls s) := by
  induction calls generalizing s with
  | nil => exact Std.Refl.refl s
  | cons call calls ih => exact Trans.trans (env.moves_perform call s) (ih _)

/-- A run that clears the latch resets the run. -/
theorem uncleared_runAll (calls : List (Call R W))
    (hcalls : ∀ call ∈ calls, ∀ reset, call ≠ .reset_run reset) (s : Service P R W) :
    Moves Uncleared Unplayed s (runAll env.perform calls s) := by
  induction calls generalizing s with
  | nil => exact Std.Refl.refl s
  | cons call calls ih =>
      have hcall : Moves Uncleared Unplayed s (env.perform call s) :=
        env.moves_execute (hcalls call List.mem_cons_self) s
      exact Trans.trans hcall (ih (fun c hc => hcalls c (List.mem_cons_of_mem call hc)) _)

theorem safe_init (controller : ScenarioController W) (provider : P) :
    Safe Unplayed (env.init controller provider) :=
  ⟨⟨rfl, Preceded.nil, fun h => nomatch h⟩, fun h => absurd rfl h⟩

/-! ## Ticks on a bad heartbeat -/

/-- Such a tick leaves time and scheduler alone. -/
theorem tick_of_badHeartbeat {s : Service P R W} (hs : Latched s) (h : env.BadHeartbeat s) :
    (∃ es, (env.tick s).2.journal = s.journal ++ es ∧ ClockEntry.scheduler_tick ∉ es) ∧
      (env.tick s).2.controller.elapsed_seconds = s.controller.elapsed_seconds ∧
      (env.tick s).2.last_observed = s.last_observed ∧
      (env.tick s).2.fractional_seconds = s.fractional_seconds := by
  rw [env.tick_apply]
  split
  · exact ⟨⟨[], (List.append_nil s.journal).symm, List.not_mem_nil⟩, rfl, rfl, rfl⟩
  · next hidle =>
      simp only [Bool.or_eq_true, not_or, Bool.not_eq_true', Bool.not_eq_false] at hidle
      have hnone : s.clock.fault_code = none := by simpa using hidle.1
      obtain ⟨provider, code, t, heq, hfault⟩ :=
        env.requireHealthy_of_badHeartbeat h hnone hidle.2 (hs.managed hidle.2)
      have hdeliver : env.deliverTime s = (.error unavailable, t) := Raising.bind_of_error heq
      have hdrive : env.driveTick s = (.ok (), t) := by
        unfold driveTick
        rw [Raising.attempt_bind_apply, hdeliver]
        exact env.fault_of_latched (by rw [hfault.fault_code]; simp) _
      rw [hdrive]
      refine ⟨?_, hfault.board.elapsed_seconds, hfault.last_observed, hfault.fractional_seconds⟩
      obtain ⟨es, hjournal, hes⟩ := hfault.journal
      refine ⟨_, hjournal, ?_⟩
      rcases hes with rfl | ⟨event, -, rfl⟩
      · simp
      · simp

/-! ## The latch -/

/-- In every state of every run: a latched code stays up to the reset of the clock in a `reset_run`,
a faulted run does not play and refuses every guarded method, every fault is latched where none is
and followed by at most one event, and a tick that opens on a bad heartbeat delivers no time. -/
theorem fault_latch_holds (controller : ScenarioController W) (provider : P)
    (calls : List (Call R W)) :
    let s := runAll env.perform calls (env.init controller provider)
    (∀ code, s.clock.fault_code = some code → ∀ more : List (Call R W),
      let t := runAll env.perform more s
      ∃ es, t.journal = s.journal ++ es ∧
        (ClockEntry.cleared ∉ es → t.clock.fault_code = some code) ∧
        (ClockEntry.cleared ∈ es → ∃ reset, Call.reset_run reset ∈ more)) ∧
    (s.clock.fault_code ≠ none →
      s.controller.state ≠ .running ∧ s.controller.state ≠ .paused ∧
      ∀ body, ∃ provider,
        env.execute (.guarded body) s = (.error unavailable, { s with provider })) ∧
    Preceded Proper s.journal ∧
    (env.BadHeartbeat s →
      (∃ es, (env.perform .tick s).journal = s.journal ++ es ∧ ClockEntry.scheduler_tick ∉ es) ∧
        (env.perform .tick s).controller.elapsed_seconds = s.controller.elapsed_seconds) := by
  intro s
  have hsafe : Safe Unplayed s := (env.moves_runAll calls _).safe (env.safe_init controller provider)
  refine ⟨fun code hcode more => ?_, fun hfault => ?_, hsafe.latched.proper, fun hbad => ?_⟩
  · obtain ⟨es, hjournal, -⟩ := (env.moves_runAll more s).grows
    have hlatched := ((env.moves_runAll more s).safe hsafe).latched
    refine ⟨es, hjournal, fun hes => ?_, fun hes => ?_⟩
    · rw [← hlatched.agrees, hjournal]
      exact latchOf_append_of_not_cleared (hjournal ▸ hlatched.proper)
        (hsafe.latched.agrees.trans hcode) hes
    · by_contra hnoReset
      obtain ⟨fs, hjournal', hfs⟩ := (env.uncleared_runAll more
        (fun call hmem reset hreset => hnoReset ⟨reset, hreset ▸ hmem⟩) s).grows
      have heq : es = fs := List.append_cancel_left (hjournal.symm.trans hjournal')
      exact hfs _ (heq ▸ hes) rfl
  · obtain ⟨hrunning, hpaused⟩ := hsafe.idle hfault
    exact ⟨hrunning, hpaused, fun body => env.guard_of_latched hfault _⟩
  · obtain ⟨hjournal, helapsed, -, -⟩ := env.tick_of_badHeartbeat hsafe.latched hbad
    exact ⟨hjournal, helapsed⟩

/-! ## Exact readings -/

/-- Readings that are exact rationals. -/
def exactArithmetic : Arithmetic Rat where
  zero := 0
  sub a b := a - b
  add a b := a + b
  isfinite _ := true
  nonnegative a := decide (0 ≤ a)
  negative a := decide (a < 0)
  exceedsStale a := decide (30 < a)
  int a := .ok (truncate a)
  subInt a n := a - n

/-- The scheduler of a service. -/
def schedulerOf (s : Service P Rat W) : ScenarioScheduler W :=
  ⟨s.controller, s.last_observed, s.fractional_seconds⟩

/-- An advance on exact readings. -/
theorem advanceBy_exact {env : Supervision P Rat W} (harithmetic : env.arithmetic = exactArithmetic)
    (now last_observed : Rat) (s : Service P Rat W) :
    schedulerOf (env.advanceBy now (now - last_observed) s).2 =
      (Scheduler.advanceBy env.controller now (now - last_observed) (schedulerOf s)).2 := by
  by_cases hdelta : 0 ≤ now - last_observed
  · have hnegative : exactArithmetic.negative (now - last_observed) = false := by
      simpa [exactArithmetic] using hdelta
    rw [Scheduler.advanceBy_of_nonneg hdelta]
    unfold advanceBy
    rw [harithmetic, Raising.require_bind_apply, if_pos hnegative, Raising.modify_bind_apply,
      Raising.gets_bind_apply, Raising.ofExcept_bind_apply]
    by_cases hzero : truncate (s.fractional_seconds + (now - last_observed)) = 0
    · rw [if_pos (show truncate ((schedulerOf s).fractional_seconds + (now - last_observed)) = 0
        from hzero)]
      dsimp only [exactArithmetic]
      rw [Raising.modify_bind_apply, Raising.gets_bind_apply, if_pos hzero]
      rfl
    · rw [if_neg (show ¬ truncate ((schedulerOf s).fractional_seconds + (now - last_observed)) = 0
        from hzero)]
      dsimp only [exactArithmetic]
      rw [Raising.modify_bind_apply, Raising.gets_bind_apply, if_neg hzero]
      rfl
  · have hnegative : ¬ exactArithmetic.negative (now - last_observed) = false := by
      simpa [exactArithmetic] using hdelta
    unfold advanceBy Scheduler.advanceBy
    rw [harithmetic, Raising.require_bind_apply, Raising.require_bind_apply, if_neg hnegative,
      if_neg hdelta]

/-- On exact readings the supervised scheduler ticks as the one of `Scheduler` does. -/
theorem schedulerTick_exact {env : Supervision P Rat W} (harithmetic : env.arithmetic = exactArithmetic)
    {s : Service P Rat W} {now : Rat} (hnow : (env.monotonic s.provider).1 = .ok now) :
    schedulerOf (env.schedulerTick s).2 = (Scheduler.tick env.controller now (schedulerOf s)).2 := by
  by_cases hrunning : s.controller.state = .running
  · have hreading : env.reading s = (.ok now, { s with provider := (env.monotonic s.provider).2 }) :=
      Prod.ext hnow rfl
    unfold schedulerTick Scheduler.tick
    rw [Raising.gets_bind_apply, if_pos hrunning, Raising.bind_of_ok hreading,
      Raising.gets_bind_apply, Raising.gets_bind_apply,
      if_pos (show (schedulerOf s).controller.state = .running from hrunning)]
    rw [Raising.gets_bind_apply]
    rcases s with ⟨controller, last_observed, fractional_seconds, clock, provider, journal⟩
    cases last_observed with
    | none => rfl
    | some last_observed =>
        rw [harithmetic]
        refine (advanceBy_exact harithmetic now last_observed _).trans ?_
        dsimp only [schedulerOf]
        cases hadvance : Scheduler.advanceBy env.controller now (now - last_observed)
            ⟨controller, some last_observed, fractional_seconds⟩ with
        | mk r t =>
            cases r with
            | ok u =>
                rw [Raising.bind_of_ok hadvance]
                rfl
            | error e => rw [Raising.bind_of_error hadvance]
  · have htick : env.schedulerTick s = (.ok (), s) := by
      unfold schedulerTick
      rw [Raising.gets_bind_apply, if_neg hrunning]
      rfl
    rw [htick, Scheduler.tick_of_not_running hrunning]

/-! ## The closing checks of a tick -/

/-- Whole seconds, and not-a-number. -/
def sampleArithmetic : Arithmetic (Option Int) where
  zero := some 0
  sub a b := do return (← a) - (← b)
  add a b := do return (← a) + (← b)
  isfinite := Option.isSome
  nonnegative a := a.any (0 ≤ ·)
  negative a := a.any (· < 0)
  exceedsStale a := a.any (30 < ·)
  int
    | some n => .ok n
    | none => .error (.of .ValueError "cannot convert float NaN to integer")
  subInt a n := a.map (· - n)

/-- The small scenario under a store that accepts everything; the provider returns the readings of a
list and raises at its end. -/
def sample : Supervision (List (Option Int)) (Option Int) Unit where
  controller := Controller.sample .automatic
  arithmetic := sampleArithmetic
  monotonic
    | [] => (.error (.of .OSError "clock unavailable"), [])
    | now :: readings => (.ok now, readings)
  latches := []
  append_event := fun _ w => (.ok (), w)

/-- The tick that starts one second after the start finds the heartbeat forty seconds old after it
has called the scheduler, which has moved the run to the second second. -/
theorem stale_after_delivery :
    let before := runAll sample.perform
      [.attach, .guarded (.timed .start fun _ => .finish)]
      (sample.init (sample.controller.init "run-1" ())
        [some 0, some 0, some 0, some 0, some 1, some 2, some 40])
    let after := sample.perform .tick before
    before.clock.fault_code = none ∧ before.controller.elapsed_seconds = 0 ∧
      after.clock.fault_code = some .heartbeat_stale ∧
      ClockEntry.scheduler_tick ∈ after.journal ∧ after.controller.elapsed_seconds = 2 := by
  decide +kernel

end Supervision

end NetStrike.Dashboard
