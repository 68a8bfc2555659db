import Mathlib.Data.Rat.Floor
import NetStrike.Foundation.Stopwatch
import NetStrike.Orchestrator.Writes

/-!
# The real-time scheduler

`orchestrator/scheduler.py`. A `ScenarioScheduler` holds a controller, the last observed reading of
the monotonic clock and a fraction of a second. Readings are exact rationals, and each call carries
the one reading that it takes, if it takes one.

`Timed` connects a scheduler to a `Stopwatch`: whole seconds and fraction show what the stopwatch
has counted at the last reading. Every call keeps it (`timed_perform`), so a run shows the counted
time in all its states and does not depend on the ticks (`real_time_kept`).
-/

set_option autoImplicit false

namespace NetStrike.Orchestrator

open NetStrike.Foundation NetStrike.Shared NetStrike.Orchestrator.Controller

/-- `ScenarioScheduler`. -/
structure ScenarioScheduler (W : Type) where
  controller : ScenarioController W
  last_observed : Option Rat
  fractional_seconds : Rat

/-- Python's `int` of a number, which rounds towards zero. -/
def truncate (q : Rat) : Int := if 0 ≤ q then ⌊q⌋ else ⌈q⌉

namespace Scheduler

variable {W : Type} (env : Controller W)

/-! ## Calls -/

/-- A call of the controller. -/
def onController {α : Type} (m : Py (ScenarioController W) α) : Py (ScenarioScheduler W) α :=
  Raising.focus ScenarioScheduler.controller (fun c s => { s with controller := c }) m

/-- `start`. -/
def start (now : Rat) : Py (ScenarioScheduler W) Unit := do
  onController env.start
  Raising.modify fun s => { s with last_observed := some now, fractional_seconds := 0 }

/-- The part of `tick` after the difference to the last reading. -/
def advanceBy (now delta : Rat) : Py (ScenarioScheduler W) Unit := do
  Raising.require (fun _ => 0 ≤ delta) fun _ =>
    .of .RuntimeError "monotonic clock moved backwards"
  Raising.modify fun s => { s with last_observed := some now }
  let elapsed ← Raising.gets fun s => s.fractional_seconds + delta
  let complete_seconds := truncate elapsed
  Raising.modify fun s => { s with fractional_seconds := elapsed - complete_seconds }
  let elapsed_seconds ← Raising.gets fun s => s.controller.elapsed_seconds
  if complete_seconds = 0 then pure ()
  else onController (env.advanceTo (elapsed_seconds + complete_seconds))

/-- `tick`. -/
def tick (now : Rat) : Py (ScenarioScheduler W) Int := do
  let state ← Raising.gets fun s => s.controller.state
  if state = .running then
    match ← Raising.gets ScenarioScheduler.last_observed with
    | none => Raising.modify fun s => { s with last_observed := some now }
    | some last_observed => advanceBy env now (now - last_observed)
  Raising.gets fun s => s.controller.elapsed_seconds

/-- `pause`. -/
def pause (now : Rat) : Py (ScenarioScheduler W) Unit := do
  let _ ← tick env now
  onController env.pause
  Raising.modify fun s => { s with last_observed := none }

/-- `resume`. -/
def resume (now : Rat) : Py (ScenarioScheduler W) Unit := do
  onController env.resume
  Raising.modify fun s => { s with last_observed := some now }

/-- `advance_to`. -/
def advanceTo (elapsed_seconds : Int) (now : Rat) : Py (ScenarioScheduler W) Unit := do
  onController (env.advanceTo elapsed_seconds)
  Raising.modify fun s => { s with last_observed := some now, fractional_seconds := 0 }

/-- The calls of a scheduler, each with its reading of the monotonic clock. -/
inductive Call where
  | start (now : Rat)
  | tick (now : Rat)
  | pause (now : Rat)
  | resume (now : Rat)
  | advance_to (elapsed_seconds : Int) (now : Rat)

/-- The execution of a call. -/
def execute : Call → Py (ScenarioScheduler W) Unit
  | .start now => start env now
  | .tick now => do
      let _ ← tick env now
  | .pause now => pause env now
  | .resume now => resume env now
  | .advance_to elapsed_seconds now => advanceTo env elapsed_seconds now

/-- The state after a call, whether it returned or raised. -/
def perform (call : Call) (s : ScenarioScheduler W) : ScenarioScheduler W := (execute env call s).2

/-- `ScenarioScheduler.__init__`. -/
def init (controller : ScenarioController W) : ScenarioScheduler W := ⟨controller, none, 0⟩

/-! ## Undisturbed calls -/

/-- The item is made due at its second: no observer raises, and the delivery neither raises nor
ends the run. -/
def CalmItem (item : ScenarioItem) (c : ScenarioController W) : Prop :=
  ∃ c', env.advanceItem item c = (.ok (), c') ∧ c'.state = .running

/-- Nothing disturbs the controller on its way to a second. -/
structure CalmAdvance (elapsed_seconds : Int) (c : ScenarioController W) : Prop where
  items : Raising.LoopMeets env.advanceItem (fun item _ => CalmItem env item)
    (env.due elapsed_seconds c) c
  clock : ∀ c', Raising.forEach env.advanceItem (env.due elapsed_seconds c) c = (.ok (), c') →
    ∃ c'', env.advanceClock elapsed_seconds c' = (.ok (), c'')

/-- Nothing disturbs a tick. -/
def CalmTick (now : Rat) (s : ScenarioScheduler W) : Prop :=
  s.controller.state = .running → ∀ last_observed, s.last_observed = some last_observed →
    truncate (s.fractional_seconds + (now - last_observed)) ≠ 0 →
      CalmAdvance env (s.controller.elapsed_seconds +
        truncate (s.fractional_seconds + (now - last_observed))) s.controller

/-- No audit write and no observer raises in the call, and no delivery raises or ends the run. -/
def Undisturbed (call : Call) (s : ScenarioScheduler W) : Prop :=
  match call with
  | .start _ =>
      env.Written (runNotice "scenario.run.started" "scenario.start"
          s!"Started {env.definition.name}") (setState .running s.controller) ∧
        ∀ c, env.beginPlay s.controller = (.ok (), c) → CalmAdvance env 0 c
  | .tick now => CalmTick env now s
  | .pause now =>
      CalmTick env now s ∧ ∀ elapsed_seconds s', tick env now s = (.ok elapsed_seconds, s') →
        env.Written (runNotice "scenario.run.paused" "scenario.pause"
          "Scenario timing paused by facilitator") (setState .paused s'.controller)
  | .resume _ =>
      env.Written (runNotice "scenario.run.resumed" "scenario.resume"
        "Scenario timing resumed by facilitator") (setState .running s.controller)
  | .advance_to elapsed_seconds _ => CalmAdvance env elapsed_seconds s.controller

/-- The call is made in a state that allows it. -/
def Allowed (call : Call) (s : ScenarioScheduler W) : Prop :=
  match call with
  | .start _ => s.controller.state = .ready
  | .tick _ => True
  | .pause _ => s.controller.state = .running
  | .resume _ => s.controller.state = .paused
  | .advance_to elapsed_seconds _ =>
      s.controller.state = .running ∧ s.controller.elapsed_seconds ≤ elapsed_seconds

/-! ## The controller under undisturbed calls -/

theorem elapsed_advanceClock (elapsed_seconds : Int) (c : ScenarioController W) :
    (env.advanceClock elapsed_seconds c).2.elapsed_seconds = elapsed_seconds := by
  have hobservers : (Raising.forEach (fun observer => do
      let outcome ← Raising.step fun c : ScenarioController W =>
        ((observer elapsed_seconds c.world).1,
          { c with world := (observer elapsed_seconds c.world).2 })
      Raising.ofExcept outcome) env.time_observers).Keeps
        (Raising.Same ScenarioController.elapsed_seconds) := by
    refine Raising.Keeps.forEach fun observer _ => ?_
    exact Raising.Keeps.bind (Raising.Keeps.step fun _ => rfl) fun r => Raising.Keeps.ofExcept r
  exact hobservers { c with elapsed_seconds := elapsed_seconds }

/-- An undisturbed advance returns in a running run at the given second. -/
theorem advanceTo_calm {elapsed_seconds : Int} {c : ScenarioController W}
    (hrunning : c.state = .running) (hle : c.elapsed_seconds ≤ elapsed_seconds)
    (h : CalmAdvance env elapsed_seconds c) :
    ∃ c', env.advanceTo elapsed_seconds c = (.ok (), c') ∧ c'.state = .running ∧
      c'.elapsed_seconds = elapsed_seconds := by
  have hloop := Raising.forEach_of_loopMeets (I := fun _ c => c.state = .running)
    (J := fun _ => False)
    (fun item items c _ hcalm => by
      obtain ⟨c', heq, hstate⟩ := hcalm
      rw [heq]
      exact hstate) hrunning h.items
  cases hitems : Raising.forEach env.advanceItem (env.due elapsed_seconds c) c with
  | mk r c₁ =>
      rw [hitems] at hloop
      cases r with
      | error e => exact hloop.elim
      | ok u =>
          obtain ⟨c₂, hclock⟩ := h.clock c₁ hitems
          refine ⟨c₂, ?_, ?_, ?_⟩
          · unfold Controller.advanceTo
            rw [requireState_bind, if_pos (List.mem_singleton.mpr hrunning),
              Raising.require_bind_apply, if_pos hle, Raising.gets_bind_apply,
              Raising.bind_of_ok hitems]
            exact hclock
          · have hsame := env.samePlay_advanceClock elapsed_seconds c₁
            rw [hclock] at hsame
            exact hsame.state.trans hloop
          · have helapsed := elapsed_advanceClock env elapsed_seconds c₁
            rwa [hclock] at helapsed

/-- An undisturbed change of the run's state returns in the new state, at the same second. -/
theorem changeState_calm {before after : RunState} {event_type action message : String}
    {c : ScenarioController W} (hbefore : c.state = before)
    (h : env.Written (runNotice event_type action message) (setState after c)) :
    ∃ c', env.changeState before after event_type action message c = (.ok (), c') ∧
      c'.state = after ∧ c'.elapsed_seconds = c.elapsed_seconds := by
  obtain ⟨c', heq, hhanded⟩ := env.notify_of_written h
  refine ⟨c', ?_, hhanded.run.state, hhanded.run.elapsed_seconds⟩
  unfold changeState
  rw [requireState_bind, if_pos (List.mem_singleton.mpr hbefore)]
  exact heq

/-! ## The scheduler as a stopwatch -/

/-- What a call does to a stopwatch. -/
def Call.mark : Call → Mark Rat
  | .start now => .start now
  | .tick now => .look now
  | .pause now => .hold now
  | .resume now => .go now
  | .advance_to elapsed_seconds now => .jump elapsed_seconds now

/-- The reading of the clock that a call takes. -/
def Call.now (call : Call) : Rat := call.mark.now

/-- The scheduler shows what the stopwatch has counted at the last reading. -/
structure Timed (s : ScenarioScheduler W) (watch : Stopwatch Rat) (reading : Rat) : Prop where
  observed : s.last_observed = watch.opened.map fun _ => reading
  running : s.controller.state = .running ↔ watch.opened.isSome = true
  shows : Shows s.controller.elapsed_seconds s.fractional_seconds (watch.total reading)
  ready : s.controller.state = .ready → s.controller.elapsed_seconds = 0

theorem truncate_of_nonneg {q : Rat} (h : 0 ≤ q) : truncate q = ⌊q⌋ := if_pos h

section Steps

variable {env} {s : ScenarioScheduler W} {watch : Stopwatch Rat} {reading now : Rat}

/-- A controller call that returns. -/
theorem onController_of_ok {α : Type} {m : Py (ScenarioController W) α} {a : α}
    {c : ScenarioController W} (h : m s.controller = (.ok a, c)) :
    onController m s = (.ok a, { s with controller := c }) := by
  unfold onController
  rw [Raising.focus_apply, h]

/-- A tick of a run that does not play changes nothing. -/
theorem tick_of_not_running (h : s.controller.state ≠ .running) :
    tick env now s = (.ok s.controller.elapsed_seconds, s) := by
  unfold tick
  rw [Raising.gets_bind_apply, if_neg h]
  rfl

/-- The scheduler after a reading, before the controller advances. -/
def observe (last_observed now : Rat) (s : ScenarioScheduler W) : ScenarioScheduler W :=
  { s with
    last_observed := some now
    fractional_seconds := s.fractional_seconds + (now - last_observed) -
      truncate (s.fractional_seconds + (now - last_observed)) }

theorem advanceBy_of_nonneg {last_observed : Rat} (hdelta : 0 ≤ now - last_observed) :
    advanceBy env now (now - last_observed) s =
      (if truncate (s.fractional_seconds + (now - last_observed)) = 0 then pure ()
        else onController (env.advanceTo (s.controller.elapsed_seconds +
          truncate (s.fractional_seconds + (now - last_observed)))))
        (observe last_observed now s) := by
  unfold advanceBy
  rw [Raising.require_bind_apply, if_pos hdelta, Raising.modify_bind_apply,
    Raising.gets_bind_apply]
  dsimp only
  rw [Raising.modify_bind_apply, Raising.gets_bind_apply]
  rfl

/-- A tick of a running run. -/
theorem tick_of_running {last_observed : Rat} (hrunning : s.controller.state = .running)
    (hobserved : s.last_observed = some last_observed) (hdelta : 0 ≤ now - last_observed) :
    tick env now s =
      ((if truncate (s.fractional_seconds + (now - last_observed)) = 0 then pure ()
        else onController (env.advanceTo (s.controller.elapsed_seconds +
          truncate (s.fractional_seconds + (now - last_observed))))) >>= fun _ =>
        Raising.gets fun s => s.controller.elapsed_seconds) (observe last_observed now s) := by
  unfold tick
  rw [Raising.gets_bind_apply, if_pos hrunning, Raising.gets_bind_apply, hobserved]
  dsimp only
  rw [Raising.bind_apply, advanceBy_of_nonneg hdelta, ← Raising.bind_apply]

/-- A tick shows the time up to its reading. -/
theorem timed_tick (h : Timed s watch reading) (hle : reading ≤ now) (hcalm : CalmTick env now s) :
    ∃ s', tick env now s = (.ok s'.controller.elapsed_seconds, s') ∧ Timed s' watch now ∧
      s'.controller.state = s.controller.state := by
  by_cases hrunning : s.controller.state = .running
  · have hopened := h.running.mp hrunning
    have hwatch : watch.opened.map (fun _ => now) = some now := by
      obtain ⟨since, hsince⟩ := Option.isSome_iff_exists.mp hopened
      rw [hsince]
      rfl
    have hobserved : s.last_observed = some reading := by
      obtain ⟨since, hsince⟩ := Option.isSome_iff_exists.mp hopened
      rw [h.observed, hsince]
      rfl
    have hdelta : 0 ≤ now - reading := sub_nonneg.mpr hle
    have hsum : 0 ≤ s.fractional_seconds + (now - reading) := add_nonneg h.shows.nonneg hdelta
    have hshows := h.shows.add (now - reading)
    rw [← Stopwatch.total_of_running hopened reading now, ← truncate_of_nonneg hsum] at hshows
    have hseconds : 0 ≤ truncate (s.fractional_seconds + (now - reading)) := by
      rw [truncate_of_nonneg hsum]
      exact Int.floor_nonneg.mpr hsum
    rw [tick_of_running hrunning hobserved hdelta]
    by_cases hzero : truncate (s.fractional_seconds + (now - reading)) = 0
    · refine ⟨observe reading now s, ?_, ⟨hwatch.symm, h.running, ?_, h.ready⟩, rfl⟩
      · rw [if_pos hzero]
        rfl
      · rw [hzero, add_zero, ← hzero] at hshows
        exact hshows
    · obtain ⟨c, heq, hstate, helapsed⟩ := advanceTo_calm env hrunning
        (le_add_of_nonneg_right hseconds) (hcalm hrunning reading hobserved hzero)
      refine ⟨{ observe reading now s with controller := c }, ?_,
        ⟨hwatch.symm, ?_, ?_, fun hready => ?_⟩, hstate.trans hrunning.symm⟩
      · rw [if_neg hzero]
        exact Raising.bind_of_ok (onController_of_ok heq)
      · exact ⟨fun _ => hopened, fun _ => hstate⟩
      · show Shows c.elapsed_seconds _ _
        rw [helapsed]
        exact hshows
      · rw [show c.state = .ready from hready] at hstate
        cases hstate
  · have hheld : watch.opened = none := by
      rw [h.running, Bool.not_eq_true, Option.isSome_eq_false_iff] at hrunning
      exact Option.isNone_iff_eq_none.mp hrunning
    refine ⟨s, tick_of_not_running hrunning, ⟨?_, h.running, ?_, h.ready⟩, rfl⟩
    · rw [h.observed, hheld]
      rfl
    · rw [Stopwatch.total_of_held hheld reading now]
      exact h.shows

/-- A running state of the controller belongs to a stopwatch that was just set going. -/
theorem timed_of_running {c : ScenarioController W} {rest : Rat} {watch : Stopwatch Rat}
    (hopened : watch.opened = some now) (hrunning : c.state = .running)
    (hshows : Shows c.elapsed_seconds rest (watch.total now)) :
    Timed ⟨c, some now, rest⟩ watch now := by
  refine ⟨?_, ?_, hshows, fun hready => ?_⟩
  · rw [hopened]
    rfl
  · rw [hopened]
    exact ⟨fun _ => rfl, fun _ => hrunning⟩
  · rw [show c.state = .ready from hready] at hrunning
    cases hrunning

theorem timed_start (h : Timed s watch reading) (hready : s.controller.state = .ready)
    (hcalm : Undisturbed env (.start now) s) :
    ∃ s', start env now s = (.ok (), s') ∧ Timed s' (watch.mark (.start now)) now := by
  obtain ⟨c₁, hbegin, hstate₁, helapsed₁⟩ := changeState_calm env hready hcalm.1
  have hzero : c₁.elapsed_seconds ≤ 0 := by
    rw [helapsed₁, h.ready hready]
  obtain ⟨c₂, hadvance, hstate₂, helapsed₂⟩ :=
    advanceTo_calm env hstate₁ hzero (hcalm.2 c₁ hbegin)
  have hstart : env.start s.controller = (.ok (), c₂) :=
    (Raising.bind_of_ok hbegin).trans hadvance
  refine ⟨⟨c₂, some now, 0⟩, Raising.bind_of_ok (onController_of_ok hstart), ?_⟩
  refine timed_of_running rfl hstate₂ ?_
  rw [helapsed₂, Stopwatch.total_start]
  exact_mod_cast Shows.of_int (0 : Int)

theorem timed_advanceTo (elapsed_seconds : Int)
    (hallowed : Allowed (.advance_to elapsed_seconds now) s)
    (hcalm : Undisturbed env (.advance_to elapsed_seconds now) s) :
    ∃ s', advanceTo env elapsed_seconds now s = (.ok (), s') ∧
      Timed s' (watch.mark (.jump elapsed_seconds now)) now := by
  obtain ⟨c, hadvance, hstate, helapsed⟩ := advanceTo_calm env hallowed.1 hallowed.2 hcalm
  refine ⟨⟨c, some now, 0⟩, Raising.bind_of_ok (onController_of_ok hadvance), ?_⟩
  refine timed_of_running rfl hstate ?_
  rw [helapsed, Stopwatch.total_jump]
  exact Shows.of_int elapsed_seconds

theorem timed_pause (h : Timed s watch reading) (hle : reading ≤ now)
    (hrunning : s.controller.state = .running) (hcalm : Undisturbed env (.pause now) s) :
    ∃ s', pause env now s = (.ok (), s') ∧ Timed s' (watch.mark (.hold now)) now := by
  obtain ⟨s₁, htick, htimed, hstate⟩ := timed_tick h hle hcalm.1
  obtain ⟨c, hpause, hpaused, helapsed⟩ :=
    changeState_calm env (hstate.trans hrunning) (hcalm.2 _ s₁ htick)
  refine ⟨⟨c, none, s₁.fractional_seconds⟩, ?_, ?_⟩
  · have hrest : (onController env.pause >>= fun _ =>
        Raising.modify fun s => { s with last_observed := none }) s₁ =
          (.ok (), ⟨c, none, s₁.fractional_seconds⟩) :=
      Raising.bind_of_ok (onController_of_ok hpause)
    exact (Raising.bind_of_ok htick).trans hrest
  · refine ⟨rfl, ?_, ?_, fun hready => ?_⟩
    · rw [hpaused]
      exact ⟨fun hs => (nomatch hs), fun hs => (nomatch hs)⟩
    · rw [helapsed, Stopwatch.total_hold]
      exact htimed.shows
    · rw [show c.state = .ready from hready] at hpaused
      cases hpaused

theorem timed_resume (h : Timed s watch reading) (hpaused : s.controller.state = .paused)
    (hcalm : Undisturbed env (.resume now) s) :
    ∃ s', resume env now s = (.ok (), s') ∧ Timed s' (watch.mark (.go now)) now := by
  obtain ⟨c, hresume, hrunning, helapsed⟩ := changeState_calm env hpaused hcalm
  have hheld : watch.opened = none := by
    refine Option.isNone_iff_eq_none.mp (Option.isSome_eq_false_iff.mp ?_)
    rw [Bool.eq_false_iff, Ne, ← h.running, hpaused]
    exact fun hs => by cases hs
  refine ⟨⟨c, some now, s.fractional_seconds⟩,
    Raising.bind_of_ok (onController_of_ok hresume), ?_⟩
  refine timed_of_running rfl hrunning ?_
  rw [helapsed, Stopwatch.total_go hheld reading]
  exact h.shows

/-- Every allowed and undisturbed call returns and shows the time up to its reading. -/
theorem timed_execute (h : Timed s watch reading) {call : Call} (hle : reading ≤ call.now)
    (hallowed : Allowed call s) (hcalm : Undisturbed env call s) :
    ∃ s', execute env call s = (.ok (), s') ∧ Timed s' (watch.mark call.mark) call.now := by
  cases call with
  | start now => exact timed_start h hallowed hcalm
  | tick now =>
      obtain ⟨s', htick, htimed, -⟩ := timed_tick h hle hcalm
      exact ⟨s', Raising.bind_of_ok htick, htimed⟩
  | pause now => exact timed_pause h hle hallowed hcalm
  | resume now => exact timed_resume h hallowed hcalm
  | advance_to elapsed_seconds now => exact timed_advanceTo elapsed_seconds hallowed hcalm

end Steps

/-! ## Runs -/

/-- The call is allowed and nothing disturbs it. -/
structure Proper (call : Call) (s : ScenarioScheduler W) : Prop where
  allowed : Allowed call s
  undisturbed : Undisturbed env call s

/-- The last reading of the clock in a run. -/
def lastReading (reading : Rat) (calls : List Call) : Rat :=
  (calls.map Call.now).getLastD reading

theorem lastReading_cons (reading : Rat) (call : Call) (calls : List Call) :
    lastReading reading (call :: calls) = lastReading call.now calls := by
  unfold lastReading
  rw [List.map_cons, List.getLastD_cons]

/-- The stopwatch after the calls. -/
def watchOf (calls : List Call) : Stopwatch Rat := Stopwatch.fresh.marks (calls.map Call.mark)

/-- Every state of a proper run is timed, and no call raises. -/
theorem timed_run {calls : List Call} {s : ScenarioScheduler W} {watch : Stopwatch Rat}
    {reading : Rat} (h : Timed s watch reading)
    (hreadings : (reading :: calls.map Call.now).Pairwise (· ≤ ·))
    (hcalls : EachMeets (perform env) (Proper env) calls s) :
    EachMeets (perform env) (fun call s => (execute env call s).1 = .ok ()) calls s ∧
      ∀ pre, pre <+: calls → Timed (runAll (perform env) pre s)
        (watch.marks (pre.map Call.mark)) (lastReading reading pre) := by
  induction calls generalizing s watch reading with
  | nil =>
      refine ⟨trivial, fun pre hpre => ?_⟩
      rw [List.prefix_nil.mp hpre]
      exact h
  | cons call calls ih =>
      rw [List.map_cons, List.pairwise_cons] at hreadings
      obtain ⟨s', heq, htimed⟩ := timed_execute h (hreadings.1 _ List.mem_cons_self)
        hcalls.1.allowed hcalls.1.undisturbed
      have hperform : perform env call s = s' := by
        unfold perform
        rw [heq]
      have hrest := hcalls.2
      rw [hperform] at hrest
      obtain ⟨hreturns, hprefixes⟩ := ih htimed hreadings.2 hrest
      refine ⟨⟨congrArg Prod.fst heq, hperform ▸ hreturns⟩, fun pre hpre => ?_⟩
      cases pre with
      | nil => exact h
      | cons call' pre =>
          obtain ⟨rfl, hpre'⟩ := List.cons_prefix_cons.mp hpre
          have hlast := hprefixes pre hpre'
          rw [← hperform] at hlast
          rw [lastReading_cons]
          exact hlast

/-- The scheduler of a run that has not started shows zero. -/
theorem timed_init {c : ScenarioController W} (hready : c.state = .ready)
    (hzero : c.elapsed_seconds = 0) (reading : Rat) : Timed (init c) Stopwatch.fresh reading := by
  refine ⟨rfl, ?_, ?_, fun _ => hzero⟩
  · show c.state = .running ↔ _
    rw [hready]
    exact ⟨fun hs => (nomatch hs), fun hs => (nomatch hs)⟩
  · have htotal : (Stopwatch.fresh : Stopwatch Rat).total reading = (0 : Int) := by
      simp [Stopwatch.total, Stopwatch.fresh, Stopwatch.stretch]
    show Shows c.elapsed_seconds 0 _
    rw [hzero, htotal]
    exact Shows.of_int 0

/-- The calls start a scheduler on a run that has not started, take non-decreasing readings, and are
each allowed and undisturbed. -/
structure ProperRun (c : ScenarioController W) (calls : List Call) : Prop where
  readings : (calls.map Call.now).Pairwise (· ≤ ·)
  calls : EachMeets (perform env) (Proper env) calls (init c)

/-- A proper run returns from every call and is timed in every state. -/
theorem timed_of_properRun {c : ScenarioController W} (hready : c.state = .ready)
    (hzero : c.elapsed_seconds = 0) {calls : List Call} (h : ProperRun env c calls) :
    EachMeets (perform env) (fun call s => (execute env call s).1 = .ok ()) calls (init c) ∧
      ∀ pre, pre <+: calls →
        Timed (runAll (perform env) pre (init c)) (watchOf pre) (lastReading 0 pre) := by
  cases calls with
  | nil =>
      refine ⟨trivial, fun pre hpre => ?_⟩
      rw [List.prefix_nil.mp hpre]
      exact timed_init hready hzero 0
  | cons call rest =>
      -- Before the first call nothing is counted, so its own reading serves as the last one.
      have hreadings : (call.now :: (call :: rest).map Call.now).Pairwise (· ≤ ·) := by
        have hrest := h.readings
        rw [List.map_cons, List.pairwise_cons] at hrest ⊢
        refine ⟨fun reading hreading => ?_, List.pairwise_cons.mpr hrest⟩
        rcases List.mem_cons.mp hreading with rfl | hmem
        · exact le_rfl
        · exact hrest.1 reading hmem
      obtain ⟨hreturns, hprefixes⟩ :=
        timed_run env (timed_init hready hzero call.now) hreadings h.calls
      refine ⟨hreturns, fun pre hpre => ?_⟩
      cases pre with
      | nil => exact timed_init hready hzero 0
      | cons call' pre =>
          have htimed := hprefixes (call' :: pre) hpre
          rw [lastReading_cons] at htimed ⊢
          exact htimed

/-- Over a run whose calls are allowed and undisturbed and whose readings do not decrease, no call
raises, whole seconds and fraction always show the time counted since the last jump, and ticks
make no difference. -/
theorem real_time_kept {c : ScenarioController W} (hready : c.state = .ready)
    (hzero : c.elapsed_seconds = 0) {calls : List Call} (h : ProperRun env c calls) :
    EachMeets (perform env) (fun call s => (execute env call s).1 = .ok ()) calls (init c) ∧
      (∀ pre, pre <+: calls →
        let s := runAll (perform env) pre (init c)
        let total := (watchOf pre).total (lastReading 0 pre)
        s.controller.elapsed_seconds = ⌊total⌋ ∧ s.fractional_seconds = Int.fract total ∧
          0 ≤ s.fractional_seconds ∧ s.fractional_seconds < 1) ∧
      ∀ calls' : List Call, ProperRun env c calls' →
        (calls'.map Call.mark).filter Mark.acts = (calls.map Call.mark).filter Mark.acts →
          lastReading 0 calls' = lastReading 0 calls →
            (runAll (perform env) calls' (init c)).controller.elapsed_seconds =
                (runAll (perform env) calls (init c)).controller.elapsed_seconds ∧
              (runAll (perform env) calls' (init c)).fractional_seconds =
                (runAll (perform env) calls (init c)).fractional_seconds := by
  obtain ⟨hreturns, htimed⟩ := timed_of_properRun env hready hzero h
  refine ⟨hreturns, fun pre hpre => ?_, fun calls' h' hmarks hlast => ?_⟩
  · have hshows := (htimed pre hpre).shows
    exact ⟨hshows.whole_eq, hshows.rest_eq, hshows.nonneg, hshows.lt_one⟩
  · have hshows := (htimed calls (List.prefix_refl calls)).shows
    have hshows' := ((timed_of_properRun env hready hzero h').2 calls'
      (List.prefix_refl calls')).shows
    have hwatch : watchOf calls' = watchOf calls := Stopwatch.marks_eq_of_filter _ hmarks
    rw [hwatch, hlast] at hshows'
    exact ⟨hshows'.whole_eq.trans hshows.whole_eq.symm, hshows'.rest_eq.trans hshows.rest_eq.symm⟩

theorem calmAdvance_start_sample {c : ScenarioController Unit}
    (h : (sample .automatic).beginPlay ((sample .automatic).init "run-1" ()) = (.ok (), c)) :
    CalmAdvance (sample .automatic) 0 c := by
  have hfacts :
      let c := ((sample .automatic).beginPlay ((sample .automatic).init "run-1" ())).2
      (sample .automatic).due 0 c = [sampleCheckpoint] ∧
        ((sample .automatic).advanceItem sampleCheckpoint c).1 = .ok () ∧
        ((sample .automatic).advanceItem sampleCheckpoint c).2.state = .running := by
    decide +kernel
  obtain ⟨hdue, hreturns, hrunning⟩ := hfacts
  rw [h] at hdue hreturns hrunning
  refine ⟨?_, fun c' _ => ⟨_, rfl⟩⟩
  rw [hdue]
  refine ⟨⟨_, Prod.ext hreturns rfl, hrunning⟩, ?_⟩
  cases (sample .automatic).advanceItem sampleCheckpoint c with
  | mk r _ => cases r <;> trivial

/-- The start of the small scenario and a tick half a second later form a proper run. -/
theorem properRun_sample : ProperRun (sample .automatic) ((sample .automatic).init "run-1" ())
    [.start 0, .tick (1 / 2)] := by
  have hwritten : (sample .automatic).Written
      (runNotice "scenario.run.started" "scenario.start" s!"Started {(sample .automatic).definition.name}")
      (setState .running ((sample .automatic).init "run-1" ())) := by
    have hnotify : ((sample .automatic).notify
        (runNotice "scenario.run.started" "scenario.start" s!"Started {(sample .automatic).definition.name}")
        (setState .running ((sample .automatic).init "run-1" ()))).1 = .ok () := by
      decide +kernel
    by_contra hrefused
    obtain ⟨e, c, heq, -⟩ := (sample .automatic).notify_of_not_written hrefused
    rw [heq] at hnotify
    cases hnotify
  have htick : (perform (sample .automatic) (.start 0)
        (init ((sample .automatic).init "run-1" ()))).last_observed = some 0 ∧
      (perform (sample .automatic) (.start 0)
        (init ((sample .automatic).init "run-1" ()))).fractional_seconds = 0 := by
    decide +kernel
  refine ⟨?_, ⟨rfl, hwritten, fun c hc => calmAdvance_start_sample hc⟩, ⟨trivial, ?_⟩, trivial⟩
  · decide +kernel
  · -- Half a second is no complete second, so the tick advances nothing.
    intro _ last_observed hobserved hseconds
    rw [htick.1] at hobserved
    cases hobserved
    rw [htick.2] at hseconds
    exact absurd (by decide +kernel) hseconds

/-- Half a second after the start of the small scenario. -/
theorem real_time_kept_sample :
    let s := runAll (perform (sample .automatic)) [.start 0, .tick (1 / 2)]
      (init ((sample .automatic).init "run-1" ()))
    s.controller.elapsed_seconds = 0 ∧ s.fractional_seconds = 1 / 2 := by
  have htotal : (watchOf [.start 0, .tick (1 / 2)]).total
      (lastReading 0 [.start 0, .tick (1 / 2)]) = 1 / 2 := by
    decide +kernel
  obtain ⟨-, hshown, -⟩ := real_time_kept (sample .automatic) rfl rfl properRun_sample
  obtain ⟨hseconds, hrest, -, -⟩ := hshown _ (List.prefix_refl _)
  rw [htotal] at hseconds hrest
  refine ⟨hseconds.trans ?_, hrest.trans ?_⟩
  · norm_num
  · norm_num

/-! ## A refused pause -/

/-- The small scenario under a sink that refuses the event of a pause. -/
def unpausable : Controller Unit :=
  { sample .automatic with
    event_sink := fun event w =>
      if event.event_type = "scenario.run.paused" then (.error (.of .OSError "disk full"), w)
      else (.ok (), w) }

/-- Although the tick of the pause delivers nothing and leaves the run running, the pause raises. -/
theorem refused_pause_raises :
    let s := perform unpausable (.start 0) (init (unpausable.init "run-1" ()))
    s.controller.state = .running ∧ (tick unpausable 5 s).1 = .ok 5 ∧
      (tick unpausable 5 s).2.controller.state = .running ∧
      (execute unpausable (.pause 5) s).1 = .error (.of .OSError "disk full") := by
  decide +kernel

end Scheduler

end NetStrike.Orchestrator
