import NetStrike.Dashboard.ParticipantAuthority
import Mathlib.Data.List.Nodup

/-!
# Runs of a participant session

What holds after any interleaving of calls, responses and credential changes. `Sound` ties what the
requests in flight remember to the counters of the session and to the log; every step keeps it
(`sound_step`).

A superseded refresh is refused, yet its response makes the session look at the stored token, and a
changed token clears the run and the state (`respond_superseded`).
-/

set_option autoImplicit false

namespace NetStrike.Dashboard

open NetStrike.Foundation ParticipantSession

/-! ## The log -/

namespace SessionEvent

/-- The call of an entry. -/
def call : SessionEvent → Nat
  | began call _ _ => call
  | settled call _ _ _ => call

/-- A write starts or ends. -/
def isWrite : SessionEvent → Bool
  | began _ kind _ => kind = .write
  | settled _ kind _ _ => kind = .write

/-- A refresh starts, or a write starts or ends. -/
def supersedes : SessionEvent → Bool
  | began _ kind _ => kind ≠ .read
  | settled _ kind _ _ => kind = .write

theorem supersedes_of_isWrite {ev : SessionEvent} (h : ev.isWrite = true) :
    ev.supersedes = true := by
  cases ev with
  | began call kind ctx =>
      have hkind : kind = .write := of_decide_eq_true h
      subst hkind
      rfl
  | settled call kind outcome ctx => exact h

end SessionEvent

/-- Nothing supersedes the refresh since it began. -/
def Quiet (call : Nat) (log : List SessionEvent) : Prop :=
  ∀ pre ctx mid, log = pre ++ .began call .refresh ctx :: mid → ∀ ev ∈ mid, ev.supersedes = false

/-- A refresh began, and since then another refresh or a write began or a write ended. -/
def Superseded (call : Nat) (log : List SessionEvent) : Prop :=
  ∃ pre ctx mid, log = pre ++ .began call .refresh ctx :: mid ∧ ∃ ev ∈ mid, ev.supersedes = true

/-- A refresh returned a valid state, and no write began or ended since that refresh began. -/
def Confirmed (log : List SessionEvent) : Prop :=
  ∃ pre mid post call ctx body ctx',
    log = pre ++ .began call .refresh ctx :: mid ++ .settled call .refresh (.value body) ctx' :: post ∧
      validState body = true ∧ ∀ ev ∈ mid ++ post, ev.isWrite = false

/-- A refresh that began after every write had ended returned a valid state. -/
def Reconfirmed (log : List SessionEvent) : Prop :=
  ∃ pre mid post call ctx body ctx',
    log = pre ++ .began call .refresh ctx :: mid ++ .settled call .refresh (.value body) ctx' :: post ∧
      validState body = true ∧ ∀ write ctx, .began write .write ctx ∈ log →
        ∃ outcome ctx', .settled write .write outcome ctx' ∈ pre

/-- The call ended in the credential and epoch it began in and, unless it is a refresh, in its
run. -/
def Owned (call : Nat) (kind : CallKind) (ctx : Context) (log : List SessionEvent) : Prop :=
  ∃ ctx', .began call kind ctx' ∈ log ∧ ctx'.credential = ctx.credential ∧ ctx'.epoch = ctx.epoch ∧
    (kind ≠ .refresh → ctx'.runId = ctx.runId)

theorem Superseded.not_quiet {call : Nat} {log : List SessionEvent} (h : Superseded call log) :
    ¬ Quiet call log := by
  intro hquiet
  obtain ⟨pre, ctx, mid, hlog, ev, hev, hsupersedes⟩ := h
  rw [hquiet pre ctx mid hlog ev hev] at hsupersedes
  cases hsupersedes

/-- An entry that supersedes nothing leaves a refresh as current as it was. -/
theorem Quiet.append {call : Nat} {log : List SessionEvent} (h : Quiet call log)
    {ev : SessionEvent} (hev : ev.supersedes = false) : Quiet call (log ++ [ev]) := by
  intro pre ctx mid hlog ev' hev'
  rcases List.eq_nil_or_concat mid with rfl | ⟨mid', last, rfl⟩
  · cases hev'
  · rw [List.concat_eq_append, ← List.cons_append, ← List.append_assoc] at hlog
    obtain ⟨hfront, hlast⟩ := List.append_inj' hlog rfl
    injection hlast with hlast _
    subst hlast
    rcases List.mem_append.mp (List.concat_eq_append ▸ hev') with hold | hnew
    · exact h pre ctx mid' hfront ev' hold
    · rw [List.mem_singleton.mp hnew]
      exact hev

/-- A refresh is current when it begins. -/
theorem quiet_of_fresh {call : Nat} {log : List SessionEvent} (h : ∀ ev ∈ log, ev.call < call)
    (ctx : Context) : Quiet call (log ++ [.began call .refresh ctx]) := by
  intro pre ctx' mid hlog ev hev
  rcases List.eq_nil_or_concat mid with rfl | ⟨mid', last, rfl⟩
  · cases hev
  · rw [List.concat_eq_append, ← List.cons_append, ← List.append_assoc] at hlog
    have hfront := List.append_inj_left' hlog rfl
    have hold := h (.began call .refresh ctx') (by rw [hfront]; simp)
    exact absurd hold (Nat.lt_irrefl _)

theorem Confirmed.append {log : List SessionEvent} (h : Confirmed log) {ev : SessionEvent}
    (hev : ev.isWrite = false) : Confirmed (log ++ [ev]) := by
  obtain ⟨pre, mid, post, call, ctx, body, ctx', hlog, hvalid, hquiet⟩ := h
  refine ⟨pre, mid, post ++ [ev], call, ctx, body, ctx', by rw [hlog]; simp, hvalid, ?_⟩
  intro ev' hev'
  rw [← List.append_assoc] at hev'
  rcases List.mem_append.mp hev' with hold | hnew
  · exact hquiet ev' hold
  · rw [List.mem_singleton.mp hnew]
    exact hev

theorem Owned.append {call : Nat} {kind : CallKind} {ctx : Context} {log : List SessionEvent}
    (h : Owned call kind ctx log) (evs : List SessionEvent) : Owned call kind ctx (log ++ evs) := by
  obtain ⟨ctx', hbegan, hrest⟩ := h
  exact ⟨ctx', List.mem_append_left evs hbegan, hrest⟩

/-! ## The invariant -/

/-- What a request remembers is what was current when it was issued. -/
def Request.Remembers (ctx : Context) : Request → Prop
  | .refresh credential epoch _ => ctx.credential = credential ∧ ctx.epoch = epoch
  | .read _ _ ctx' _ => ctx = ctx'
  | .write ctx' => ctx = ctx'

/-- The epoch that a request remembers. -/
def Request.epoch : Request → Nat
  | .refresh _ epoch _ => epoch
  | .read _ _ ctx _ => ctx.epoch
  | .write ctx => ctx.epoch

theorem Request.Remembers.epoch_eq {ctx : Context} {request : Request}
    (h : request.Remembers ctx) : ctx.epoch = request.epoch := by
  cases request with
  | refresh credential epoch serial => exact h.2
  | read path runScoped ctx' owner => exact congrArg Context.epoch h
  | write ctx' => exact congrArg Context.epoch h

namespace SessionWorld

/-- The writes in flight. -/
def writes (w : SessionWorld) : List (Nat × Request) :=
  w.inFlight.filter fun entry => entry.2.kind = .write

/-- The requests in flight, the counters of the session and the log agree. -/
structure Sound (w : SessionWorld) : Prop where
  logged : ∀ ev ∈ w.log, ev.call < w.next
  distinct : (w.inFlight.map Prod.fst).Nodup
  issued : ∀ entry ∈ w.inFlight, ∃ ctx, .began entry.1 entry.2.kind ctx ∈ w.log ∧
    entry.2.Remembers ctx
  epochs : ∀ entry ∈ w.inFlight, entry.2.epoch ≤ w.session.epoch
  oneWrite : w.writes.length ≤ 1
  pending : w.session.pendingWrite = none → w.writes = []
  refreshes : ∀ call credential epoch serial,
    (call, Request.refresh credential epoch serial) ∈ w.inFlight →
      credential ≠ "" ∧ serial ≤ w.session.serial ∧
        (serial = w.session.serial → credential = w.session.credential ∧ Quiet call w.log)
  ended : ∀ call ctx, .began call .write ctx ∈ w.log →
    (∃ entry ∈ w.writes, entry.1 = call) ∨ ∃ outcome ctx', .settled call .write outcome ctx' ∈ w.log
  confirmed : w.session.state.isSome = true → Confirmed w.log
  owned : ∀ call kind body ctx, .settled call kind (.value body) ctx ∈ w.log →
    Owned call kind ctx w.log

theorem sound_init (token : String) : (init token).Sound where
  logged := nofun
  distinct := .nil
  issued := nofun
  epochs := nofun
  oneWrite := Nat.zero_le 1
  pending := fun _ => rfl
  refreshes := nofun
  ended := nofun
  confirmed := nofun
  owned := nofun

variable {w : SessionWorld}

theorem state_isSome {s s' : ParticipantSession} (h : Lowered s s')
    (hstate : s'.state.isSome = true) : s.state.isSome = true := by
  rcases h.state with hsame | hnone
  · rwa [hsame] at hstate
  · rw [hnone] at hstate
    cases hstate

/-- A part of a method that issues nothing keeps the invariant. -/
theorem Sound.lowered (h : w.Sound) {s : ParticipantSession} (hs : Lowered w.session s)
    (token : String) : Sound { w with session := s, token := token } where
  logged := h.logged
  distinct := h.distinct
  issued := h.issued
  epochs := fun entry hentry => (h.epochs entry hentry).trans hs.epoch_le
  oneWrite := h.oneWrite
  pending := fun hnone => h.pending (hs.pendingWrite.symm.trans hnone)
  refreshes := fun call credential epoch serial hmem => by
    obtain ⟨hne, hle, hcurrent⟩ := h.refreshes call credential epoch serial hmem
    refine ⟨hne, hle.trans hs.serial_le, fun hserial => ?_⟩
    have hserial : serial = s.serial := hserial
    have hgrown := hs.serial_le
    obtain ⟨hcredential, hquiet⟩ := hcurrent (by omega)
    exact ⟨hcredential.trans (hs.steady (by omega)).1.symm, hquiet⟩
  ended := h.ended
  confirmed := fun hstate => h.confirmed (state_isSome hs hstate)
  owned := h.owned

/-- The writes in flight after a request is sent. -/
theorem writes_issue (request : Request) (s : ParticipantSession) (w : SessionWorld) :
    (w.issue request s).writes =
      w.writes ++ if request.kind = .write then [(w.next, request)] else [] := by
  simp only [writes, issue, List.filter_append, List.filter_cons, List.filter_nil,
    decide_eq_true_eq]

/-- Sending a request keeps the invariant; a write is sent when none is in flight, and the serial
has moved when a refresh or a write is sent. -/
theorem Sound.issue (h : w.Sound) {s : ParticipantSession} (hs : Advances w.session s)
    {request : Request} (hremembers : request.Remembers ⟨s.credential, s.epoch, s.runId⟩)
    (hwrite : request.kind = .write → w.writes = [])
    (hpending : s.pendingWrite = none → w.session.pendingWrite = none ∧ request.kind ≠ .write)
    (hserial : request.kind ≠ .read → w.session.serial < s.serial)
    (hrefresh : ∀ credential epoch serial, request = .refresh credential epoch serial →
      credential ≠ "" ∧ serial = s.serial)
    (hstate : s.state.isSome = true → w.session.state.isSome = true ∧ request.kind ≠ .write) :
    (w.issue request s).Sound where
  logged := fun ev hev => by
    rcases List.mem_append.mp hev with hold | hnew
    · exact (h.logged ev hold).trans (Nat.lt_succ_self _)
    · rw [List.mem_singleton.mp hnew]
      exact Nat.lt_succ_self _
  distinct := by
    show ((w.inFlight ++ [(w.next, request)]).map Prod.fst).Nodup
    rw [List.map_append, List.map_singleton, List.nodup_append]
    refine ⟨h.distinct, List.nodup_singleton _, fun call hcall other hother heq => ?_⟩
    obtain ⟨entry, hentry, rfl⟩ := List.mem_map.mp hcall
    obtain ⟨ctx, hbegan, -⟩ := h.issued entry hentry
    have hold := h.logged _ hbegan
    rw [List.mem_singleton.mp hother] at heq
    exact absurd heq (Nat.ne_of_lt hold)
  issued := fun entry hentry => by
    rcases List.mem_append.mp hentry with hold | hnew
    · obtain ⟨ctx, hbegan, hrest⟩ := h.issued entry hold
      exact ⟨ctx, List.mem_append_left _ hbegan, hrest⟩
    · rw [List.mem_singleton.mp hnew]
      exact ⟨_, List.mem_append_right _ (List.mem_singleton_self _), hremembers⟩
  epochs := fun entry hentry => by
    rcases List.mem_append.mp hentry with hold | hnew
    · exact (h.epochs entry hold).trans hs.epoch_le
    · rw [List.mem_singleton.mp hnew]
      exact hremembers.epoch_eq.ge
  oneWrite := by
    rw [writes_issue]
    split
    · next hkind =>
        rw [hwrite hkind]
        exact Nat.le_refl 1
    · rw [List.append_nil]
      exact h.oneWrite
  pending := fun hnone => by
    obtain ⟨hpendingNone, hkind⟩ := hpending hnone
    rw [writes_issue, if_neg hkind, List.append_nil]
    exact h.pending hpendingNone
  refreshes := fun call credential epoch serial hmem => by
    rcases List.mem_append.mp hmem with hold | hnew
    · obtain ⟨hne, hle, hcurrent⟩ := h.refreshes call credential epoch serial hold
      refine ⟨hne, hle.trans hs.serial_le, fun hsame => ?_⟩
      have hsame : serial = s.serial := hsame
      by_cases hread : request.kind = .read
      · have hgrown := hs.serial_le
        obtain ⟨hcredential, hquiet⟩ := hcurrent (by omega)
        refine ⟨hcredential.trans (hs.steady (by omega)).1.symm, hquiet.append ?_⟩
        simp [SessionEvent.supersedes, hread]
      · have hmoved := hserial hread
        omega
    · have hentry := List.mem_singleton.mp hnew
      injection hentry with hcall hrequest
      obtain ⟨hne, hsame⟩ := hrefresh credential epoch serial hrequest.symm
      rw [← hrequest] at hremembers
      refine ⟨hne, hsame.le, fun _ => ⟨hremembers.1.symm, ?_⟩⟩
      show Quiet call (w.log ++ [.began w.next request.kind _])
      rw [← hrequest, hcall]
      exact quiet_of_fresh h.logged _
  ended := fun call ctx hbegan => by
    rw [writes_issue]
    rcases List.mem_append.mp hbegan with hold | hnew
    · rcases h.ended call ctx hold with ⟨entry, hentry, hcall⟩ | ⟨outcome, ctx', hsettled⟩
      · exact .inl ⟨entry, List.mem_append_left _ hentry, hcall⟩
      · exact .inr ⟨outcome, ctx', List.mem_append_left _ hsettled⟩
    · have hev := List.mem_singleton.mp hnew
      injection hev with hcall hkind _
      rw [if_pos hkind.symm]
      exact .inl ⟨_, List.mem_append_right _ (List.mem_singleton_self _), hcall.symm⟩
  confirmed := fun hsome => by
    obtain ⟨hold, hkind⟩ := hstate hsome
    exact (h.confirmed hold).append (decide_eq_false hkind)
  owned := fun call kind body ctx hsettled => by
    rcases List.mem_append.mp hsettled with hold | hnew
    · exact (h.owned call kind body ctx hold).append _
    · exact nomatch List.mem_singleton.mp hnew

/-- Without a credential `refresh` sends nothing; no older refresh is current then. -/
theorem Sound.idle (h : w.Sound) (hcredential : w.session.credential = "") (ctx : Context) :
    Sound { w with
      next := w.next + 1
      log := w.log ++ [.began w.next .refresh ctx, .settled w.next .refresh .null ctx] } where
  logged := fun ev hev => by
    rcases List.mem_append.mp hev with hold | hnew
    · exact (h.logged ev hold).trans (Nat.lt_succ_self _)
    · simp only [List.mem_cons, List.not_mem_nil, or_false] at hnew
      rcases hnew with rfl | rfl <;> exact Nat.lt_succ_self _
  distinct := h.distinct
  issued := fun entry hentry => by
    obtain ⟨ctx', hbegan, hrest⟩ := h.issued entry hentry
    exact ⟨ctx', List.mem_append_left _ hbegan, hrest⟩
  epochs := h.epochs
  oneWrite := h.oneWrite
  pending := h.pending
  refreshes := fun call credential epoch serial hmem => by
    obtain ⟨hne, hle, hcurrent⟩ := h.refreshes call credential epoch serial hmem
    refine ⟨hne, hle, fun hserial => ?_⟩
    exact absurd ((hcurrent hserial).1.trans hcredential) hne
  ended := fun call ctx' hbegan => by
    rcases List.mem_append.mp hbegan with hold | hnew
    · refine (h.ended call ctx' hold).imp_right fun ⟨outcome, ctx'', hsettled⟩ => ?_
      exact ⟨outcome, ctx'', List.mem_append_left _ hsettled⟩
    · simp at hnew
  confirmed := fun hstate => by
    have hfirst : Confirmed (w.log ++ [.began w.next .refresh ctx]) := (h.confirmed hstate).append rfl
    have hsilent : (SessionEvent.settled w.next .refresh .null ctx).isWrite = false := rfl
    have hboth := hfirst.append hsilent
    rwa [List.append_assoc] at hboth
  owned := fun call kind body ctx' hsettled => by
    rcases List.mem_append.mp hsettled with hold | hnew
    · exact (h.owned call kind body ctx' hold).append _
    · simp at hnew

theorem sound_refresh (h : w.Sound) : w.refresh.Sound := by
  have hsync := lowered_sync w.token w.session
  unfold refresh
  dsimp only
  split
  · next hcredential =>
      have hbase : Sound { w with session := w.session.sync w.token } := h.lowered hsync w.token
      exact hbase.idle hcredential _
  · next hcredential =>
      have hbumped : Advances (w.session.sync w.token)
          { w.session.sync w.token with serial := (w.session.sync w.token).serial + 1 } :=
        ⟨le_refl _, Nat.le_succ _, fun hsame => absurd hsame (Nat.succ_ne_self _)⟩
      have hremembers : (Request.refresh (w.session.sync w.token).credential
          (w.session.sync w.token).epoch ((w.session.sync w.token).serial + 1)).Remembers
            ⟨(w.session.sync w.token).credential, (w.session.sync w.token).epoch,
              (w.session.sync w.token).runId⟩ := ⟨rfl, rfl⟩
      refine h.issue (hsync.toAdvances.trans hbumped) hremembers nofun
        (fun hnone => ⟨hsync.pendingWrite.symm.trans hnone, nofun⟩)
        (fun _ => Nat.lt_succ_of_le hsync.serial_le) ?_
        (fun hsome => ⟨state_isSome hsync hsome, nofun⟩)
      intro credential epoch serial heq
      injection heq with hcred _ hserial
      exact ⟨hcred ▸ hcredential, hserial.symm⟩

theorem sound_read (h : w.Sound) (path : String) (runScoped : Bool) :
    (w.read path runScoped).Sound := by
  obtain ⟨hlowered, hok⟩ := beginRead_cases w.token path w.next w.session
  unfold read
  rcases hbegin : w.session.beginRead w.token path w.next with ⟨result, s⟩
  rw [hbegin] at hlowered hok
  cases result with
  | error message => exact h.lowered hlowered w.token
  | ok started =>
      obtain ⟨ctx, owner⟩ := started
      exact h.issue hlowered.toAdvances (hok ctx owner rfl).symm nofun
        (fun hnone => ⟨hlowered.pendingWrite.symm.trans hnone, nofun⟩) (fun hne => absurd rfl hne)
        nofun (fun hsome => ⟨state_isSome hlowered hsome, nofun⟩)

theorem sound_write (h : w.Sound) : w.write.Sound := by
  have hcases := beginWrite_cases w.token w.session
  unfold write
  rcases hbegin : w.session.beginWrite w.token with ⟨result, s⟩
  rw [hbegin] at hcases
  rcases hcases with ⟨message, heq, hlowered⟩ | ⟨ctx, heq, hnone, hadvances, hserial, hpending,
    hstate, hctx⟩
  · dsimp only at heq
    subst heq
    exact h.lowered hlowered w.token
  · dsimp only at heq hpending hstate
    subst heq
    refine h.issue hadvances hctx.symm (fun _ => h.pending hnone) (fun hempty => ?_)
      (fun _ => hserial) nofun (fun hsome => ?_)
    · rw [hpending] at hempty
      cases hempty
    · rw [hstate] at hsome
      cases hsome

/-- The entry of a call that is answered. -/
theorem mem_of_lookup {call : Nat} {request : Request} (h : w.inFlight.lookup call = some request) :
    (call, request) ∈ w.inFlight := by
  obtain ⟨front, back, hsplit, -⟩ := List.lookup_eq_some_iff.mp h
  rw [hsplit]
  simp

/-- The writes in flight after a response is taken. -/
theorem writes_filter (call : Nat) (w : SessionWorld) :
    ((w.inFlight.filter fun entry => entry.1 ≠ call).filter fun entry =>
      entry.2.kind = .write) = w.writes.filter fun entry => entry.1 ≠ call := by
  rw [writes, List.filter_filter, List.filter_filter]
  exact List.filter_congr fun entry _ => Bool.and_comm _ _

/-- An answered write was the only one in flight. -/
theorem Sound.writes_after (h : w.Sound) {call : Nat} {request : Request}
    (hmem : (call, request) ∈ w.inFlight) (hkind : request.kind = .write) :
    (w.writes.filter fun entry => entry.1 ≠ call) = [] := by
  have hwrite : (call, request) ∈ w.writes :=
    List.mem_filter.mpr ⟨hmem, decide_eq_true hkind⟩
  refine List.filter_eq_nil_iff.mpr fun entry hentry => ?_
  obtain ⟨only, honly⟩ : ∃ only, w.writes = [only] := by
    have hle := h.oneWrite
    cases hwrites : w.writes with
    | nil =>
        rw [hwrites] at hwrite
        cases hwrite
    | cons only rest =>
        rw [hwrites, List.length_cons] at hle
        rw [List.eq_nil_of_length_eq_zero (by omega : rest.length = 0)]
        exact ⟨only, rfl⟩
  rw [honly] at hwrite hentry
  rw [List.mem_singleton.mp hentry, ← List.mem_singleton.mp hwrite]
  simp

/-- Taking a response keeps the invariant. -/
theorem Sound.settle (h : w.Sound) {call : Nat} {request : Request}
    (hmem : (call, request) ∈ w.inFlight) {s : ParticipantSession} (hs : Advances w.session s)
    {outcome : Outcome}
    (hpending : request.kind ≠ .write → s.pendingWrite = w.session.pendingWrite)
    (hwrite : request.kind = .write → w.session.serial < s.serial ∧ s.state = none)
    (hstate : s.state.isSome = true → w.session.state.isSome = true ∨
      request.kind = .refresh ∧ Quiet call w.log ∧
        ∃ body, outcome = .value body ∧ validState body = true)
    (hvalue : ∀ body, outcome = .value body → Owned call request.kind w.now w.log) :
    Sound { w with
      session := s
      inFlight := w.inFlight.filter fun entry => entry.1 ≠ call
      log := w.log ++ [.settled call request.kind outcome w.now] } where
  logged := fun ev hev => by
    rcases List.mem_append.mp hev with hold | hnew
    · exact h.logged ev hold
    · obtain ⟨ctx, hbegan, -⟩ := h.issued _ hmem
      have hold := h.logged _ hbegan
      rw [List.mem_singleton.mp hnew]
      exact hold
  distinct := h.distinct.sublist (List.filter_sublist.map Prod.fst)
  issued := fun entry hentry => by
    obtain ⟨ctx, hbegan, hrest⟩ := h.issued entry (List.mem_of_mem_filter hentry)
    exact ⟨ctx, List.mem_append_left _ hbegan, hrest⟩
  epochs := fun entry hentry => (h.epochs entry (List.mem_of_mem_filter hentry)).trans hs.epoch_le
  oneWrite := by
    show ((w.inFlight.filter _).filter _).length ≤ 1
    rw [writes_filter]
    exact (List.length_filter_le _ _).trans h.oneWrite
  pending := fun hnone => by
    show (w.inFlight.filter _).filter _ = []
    rw [writes_filter]
    by_cases hkind : request.kind = .write
    · exact h.writes_after hmem hkind
    · rw [h.pending ((hpending hkind).symm.trans hnone)]
      rfl
  refreshes := fun call' credential epoch serial hrefresh => by
    obtain ⟨hne, hle, hcurrent⟩ :=
      h.refreshes call' credential epoch serial (List.mem_of_mem_filter hrefresh)
    refine ⟨hne, hle.trans hs.serial_le, fun hserial => ?_⟩
    have hserial : serial = s.serial := hserial
    have hgrown := hs.serial_le
    have hkind : request.kind ≠ .write := fun hkind => by
      have hmoved := (hwrite hkind).1
      omega
    obtain ⟨hcredential, hquiet⟩ := hcurrent (by omega)
    exact ⟨hcredential.trans (hs.steady (by omega)).1.symm, hquiet.append (decide_eq_false hkind)⟩
  ended := fun call' ctx hbegan => by
    have hbegan : SessionEvent.began call' .write ctx ∈ w.log := by
      rcases List.mem_append.mp hbegan with hold | hnew
      · exact hold
      · exact nomatch List.mem_singleton.mp hnew
    show (∃ entry ∈ (w.inFlight.filter _).filter _, entry.1 = call') ∨ _
    rw [writes_filter]
    rcases h.ended call' ctx hbegan with ⟨entry, hentry, hcall⟩ | ⟨outcome', ctx', hsettled⟩
    · by_cases hsame : call' = call
      · -- The write that ends is the one that is answered.
        obtain ⟨hflight, hkind⟩ := List.mem_filter.mp hentry
        have heq : entry = (call, request) :=
          List.inj_on_of_nodup_map h.distinct hflight hmem (hcall.trans hsame)
        rw [heq, decide_eq_true_eq] at hkind
        refine .inr ⟨outcome, w.now, List.mem_append_right _ ?_⟩
        have hkind : request.kind = .write := hkind
        rw [hkind, hsame]
        exact List.mem_singleton_self _
      · refine .inl ⟨entry, List.mem_filter.mpr ⟨hentry, decide_eq_true ?_⟩, hcall⟩
        rw [hcall]
        exact hsame
    · exact .inr ⟨outcome', ctx', List.mem_append_left _ hsettled⟩
  confirmed := fun hsome => by
    have hkind : request.kind ≠ .write := fun hkind => by
      have hnone : s.state = none := (hwrite hkind).2
      have hsome : s.state.isSome = true := hsome
      rw [hnone] at hsome
      cases hsome
    rcases hstate hsome with hold | ⟨hrefresh, hquiet, body, houtcome, hvalid⟩
    · exact (h.confirmed hold).append (decide_eq_false hkind)
    · obtain ⟨ctx, hbegan, -⟩ := h.issued _ hmem
      have hbegan : SessionEvent.began call .refresh ctx ∈ w.log := hrefresh ▸ hbegan
      obtain ⟨pre, mid, hlog⟩ := List.append_of_mem hbegan
      refine ⟨pre, mid, [], call, ctx, body, w.now, ?_, hvalid, fun ev hev => ?_⟩
      · rw [hrefresh, houtcome]
        exact congrArg (· ++ [_]) hlog
      · rw [List.append_nil] at hev
        by_contra hwrites
        rw [Bool.not_eq_false] at hwrites
        have hsupersedes := SessionEvent.supersedes_of_isWrite hwrites
        rw [hquiet pre ctx mid hlog ev hev] at hsupersedes
        cases hsupersedes
  owned := fun call' kind body ctx hsettled => by
    rcases List.mem_append.mp hsettled with hold | hnew
    · exact (h.owned call' kind body ctx hold).append _
    · have hev := List.mem_singleton.mp hnew
      injection hev with hcall hkind houtcome hctx
      subst hcall
      subst hkind
      subst hctx
      exact (hvalue body houtcome.symm).append _

theorem sound_respond (h : w.Sound) (call : Nat) (response : Response) :
    (w.respond call response).Sound := by
  unfold respond
  cases hlookup : w.inFlight.lookup call with
  | none => exact h
  | some request =>
      have hmem := mem_of_lookup hlookup
      have hepoch := h.epochs _ hmem
      obtain ⟨ctx', hbegan, hremembers⟩ := h.issued _ hmem
      cases request with
      | refresh credential epoch serial =>
          rcases endRefresh_cases hepoch response with ⟨hlowered, hvalue⟩ |
            ⟨state, hvalid, houtcome, hadvances, hpending, htoken, hsame, hserial⟩
          · refine h.settle hmem hlowered.toAdvances (fun _ => hlowered.pendingWrite) nofun
              (fun hsome => .inl (state_isSome hlowered hsome)) fun body hbody => ?_
            exact absurd hbody (hvalue body)
          · refine h.settle hmem hadvances (fun _ => hpending) nofun (fun _ => .inr ⟨rfl, ?_, ?_⟩)
              fun body hbody => ⟨ctx', hbegan, ?_, ?_, fun hne => absurd rfl hne⟩
            · exact ((h.refreshes _ _ _ _ hmem).2.2 hserial.symm).2
            · exact ⟨state, houtcome, hvalid⟩
            · exact hremembers.1.trans htoken.symm
            · exact hremembers.2.trans hsame.symm
      | read path runScoped ctx owner =>
          have hlowered := lowered_endRead w.token path runScoped ctx owner response w.session
          refine h.settle hmem hlowered.toAdvances (fun _ => hlowered.pendingWrite) nofun
            (fun hsome => .inl (state_isSome hlowered hsome)) fun body hbody => ?_
          have hctx := endRead_eq_value hepoch hbody
          have hboth : ctx' = w.now := hremembers.trans hctx
          exact ⟨ctx', hbegan, by rw [hboth], by rw [hboth], fun _ => by rw [hboth]⟩
      | write ctx =>
          have hlowered := lowered_writeAnswered w.token ctx response w.session
          have hadvances := hlowered.toAdvances.trans (advances_barrier none _)
          refine h.settle hmem hadvances (fun hne => absurd rfl hne)
            (fun _ => ⟨Nat.lt_succ_of_le hlowered.serial_le, rfl⟩) nofun fun body hbody => ?_
          have hctx := endWrite_eq_value hepoch hbody
          have hboth : ctx' = w.now := hremembers.trans hctx
          exact ⟨ctx', hbegan, by rw [hboth], by rw [hboth], fun _ => by rw [hboth]⟩

/-- Every step keeps the invariant. -/
theorem sound_step (h : w.Sound) (op : SessionOp) : (step op w).Sound := by
  cases op with
  | setToken token => exact h.lowered (.refl _) token
  | sync => exact h.lowered (lowered_sync _ _) w.token
  | invalidate => exact h.lowered (lowered_invalidate _) w.token
  | refresh => exact sound_refresh h
  | read path runScoped => exact sound_read h path runScoped
  | write => exact sound_write h
  | respond call response => exact sound_respond h call response

theorem sound_runAll (h : w.Sound) (ops : List SessionOp) : (runAll step ops w).Sound := by
  induction ops generalizing w with
  | nil => exact h
  | cons op ops ih => exact ih (sound_step h op)

/-! ## The results -/

/-- The authority to write rests on a refresh that began after the last write had ended. -/
theorem Sound.reconfirmed (h : w.Sound) (hcan : w.session.canWrite = true) : Reconfirmed w.log := by
  simp only [canWrite, Bool.and_eq_true, Option.isNone_iff_eq_none] at hcan
  obtain ⟨⟨⟨hpending, hstate⟩, -⟩, -⟩ := hcan
  obtain ⟨pre, mid, post, call, ctx, body, ctx', hlog, hvalid, hquiet⟩ := h.confirmed hstate
  refine ⟨pre, mid, post, call, ctx, body, ctx', hlog, hvalid, fun write writeCtx hbegan => ?_⟩
  rcases h.ended write writeCtx hbegan with ⟨entry, hentry, -⟩ | ⟨outcome, endCtx, hsettled⟩
  · rw [h.pending hpending] at hentry
    cases hentry
  · refine ⟨outcome, endCtx, ?_⟩
    -- Since the refresh began no write ended, so this one had ended before.
    rw [hlog] at hsettled
    simp only [List.mem_append, List.mem_cons] at hsettled
    rcases hsettled with (hpre | hbegin | hmid) | hend | hpost
    · exact hpre
    · cases hbegin
    · cases hquiet _ (List.mem_append_left _ hmid)
    · cases hend
    · cases hquiet _ (List.mem_append_right _ hpost)

/-- The response of a superseded refresh does to the session what `sync` does. -/
theorem Sound.respond_superseded (h : w.Sound) {call : Nat} {credential : String}
    {epoch serial : Nat} (hlookup : w.inFlight.lookup call = some (.refresh credential epoch serial))
    (hsuperseded : Superseded call w.log) (response : Response) :
    (w.respond call response).session = w.session.sync w.token := by
  obtain ⟨hne, hle, hcurrent⟩ := h.refreshes _ _ _ _ (mem_of_lookup hlookup)
  have hstale : serial ≠ w.session.serial := fun heq => hsuperseded.not_quiet (hcurrent heq).2
  have hsync : (w.session.current w.token credential epoch).2 = w.session.sync w.token := by
    rw [current, if_neg hne]
  have hafter : serial ≠ (w.session.current w.token credential epoch).2.serial := by
    have hgrown := (lowered_current w.token credential epoch w.session).serial_le
    omega
  have hfailed : ∀ status message,
      (w.session.refreshFailed w.token credential epoch serial status message).2 =
        w.session.sync w.token := by
    intro status message
    unfold refreshFailed
    dsimp only
    rw [if_pos (.inr hafter)]
    exact hsync
  unfold respond
  rw [hlookup]
  show (w.session.endRefresh w.token credential epoch serial response).2 = _
  unfold endRefresh
  cases response with
  | error status message => exact hfailed status message
  | ok state =>
      dsimp only
      rw [if_pos (.inr hafter)]
      exact hsync

/-- What the response of a superseded refresh may do: nothing, or, where the stored token has
changed, clear the run and the state. -/
def Refuses (w : SessionWorld) (call : Nat) (response : Response) : Prop :=
  let s := (w.respond call response).session
  (s.runId, s.state) =
    if w.token = w.session.credential then (w.session.runId, w.session.state) else (none, none)

theorem Sound.refuses (h : w.Sound) {call : Nat} {credential : String} {epoch serial : Nat}
    (hlookup : w.inFlight.lookup call = some (.refresh credential epoch serial))
    (hsuperseded : Superseded call w.log) (response : Response) : w.Refuses call response := by
  unfold Refuses
  dsimp only
  rw [h.respond_superseded hlookup hsuperseded response]
  split
  · next hsame => rw [sync_of_eq hsame]
  · next hchanged =>
      rw [sync_of_ne hchanged]
      rfl

/-- After any interleaving: one write in flight at most, authority to write only from a refresh that
began after the last write had ended, values only for calls whose context is still current, and
nothing from a superseded refresh but the clearing of a session whose token has changed. -/
theorem participant_session_sound (token : String) (ops : List SessionOp) :
    let w := runAll step ops (init token)
    w.writes.length ≤ 1 ∧
      (w.session.canWrite = true → Reconfirmed w.log) ∧
      (∀ call kind body ctx, .settled call kind (.value body) ctx ∈ w.log →
        Owned call kind ctx w.log) ∧
      ∀ call credential epoch serial,
        w.inFlight.lookup call = some (.refresh credential epoch serial) →
          Superseded call w.log → ∀ response, w.Refuses call response := by
  have hsound := sound_runAll (sound_init token) ops
  exact ⟨hsound.oneWrite, hsound.reconfirmed, hsound.owned,
    fun _ _ _ _ hlookup hsuperseded => hsound.refuses hlookup hsuperseded⟩

/-- A state that `refresh` accepts. -/
def sampleState : Json :=
  .obj [("run_id", .str "run-1"), ("state", .str "running"), ("elapsed_seconds", .int 30),
    ("injects", .arr []), ("cloud_enabled", .bool true), ("impact_enabled", .bool true)]

/-- Two refreshes, the answer to the second one, and another token. -/
def switched : List SessionOp :=
  [.refresh, .refresh, .respond 1 (.ok sampleState), .setToken "learner-b"]

theorem participant_session_sound_sample :
    let w := runAll step (switched.take 3) (init "learner-a")
    Reconfirmed w.log ∧ w.Refuses 0 (.error none "offline") := by
  have h := participant_session_sound "learner-a" (switched.take 3)
  refine ⟨h.2.1 (by decide), h.2.2.2 0 "learner-a" 1 2 (by decide) ?_ _⟩
  exact ⟨[], ⟨"learner-a", 1, none⟩, _, rfl, _, List.mem_cons_self, rfl⟩

/-- The late answer to the first refresh clears the run that the second one had confirmed. -/
theorem superseded_refresh_clears :
    let w := runAll step switched (init "learner-a")
    Superseded 0 w.log ∧ w.session.runId = some "run-1" ∧
      (w.respond 0 (.ok sampleState)).session.runId = none := by
  refine ⟨⟨[], ⟨"learner-a", 1, none⟩, _, rfl, _, List.mem_cons_self, rfl⟩, ?_, ?_⟩ <;> decide

end SessionWorld

end NetStrike.Dashboard
