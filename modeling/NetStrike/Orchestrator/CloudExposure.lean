import NetStrike.Foundation.Histories
import NetStrike.Orchestrator.Cloud

/-!
# Accounting for cloud exposure

The exposure of the bucket is always the first records of the fixture in order, and its count is how
many they are (`Exposes`). Every body that ran took the state of the mock cloud from where the one
before it had left it (`Chained`), and `CloudEntry.Sound` says what such a body can do: nothing is
taken back, the whole fixture is read by a bulk attempt under a decision that allowed it, and with
the key revoked nothing more is read.

That a branch runs under the verdict of DP3 is carried by the controller: `RunAccounted` ties the
flags of the stage to the items that are still open, and the verdict to the revoked key.
-/

set_option autoImplicit false

namespace NetStrike.Orchestrator

open NetStrike.Foundation NetStrike.Shared MockCloud

/-! ## Records -/

namespace MockCloudState

/-- The ids of the fixture in order. -/
def sortedRecords : List String := (baselineObjects.map Prod.fst).insertionSort (· ≤ ·)

theorem sortedRecords_length : sortedRecords.length = 25 := by
  unfold sortedRecords
  rw [List.length_insertionSort, List.length_map, baselineObjects, List.length_map,
    List.length_range]

theorem sortedRecords_nodup : sortedRecords.Nodup := by
  have hids : (baselineObjects.map Prod.fst).Nodup := by decide
  exact (List.perm_insertionSort _ _).nodup_iff.mpr hids

theorem mem_sortedRecords {id : String} :
    id ∈ sortedRecords ↔ id ∈ baselineObjects.map Prod.fst :=
  (List.perm_insertionSort _ _).mem_iff

theorem lookup_modifyEntry {α : Type} (key q : String) (f : α → α) (entries : List (String × α)) :
    (modifyEntry key f entries).lookup q =
      if q = key then (entries.lookup q).map f else entries.lookup q := by
  induction entries with
  | nil => simp [modifyEntry]
  | cons entry entries ih =>
      unfold modifyEntry at ih ⊢
      rw [List.map_cons, List.lookup_cons, List.lookup_cons, ih]
      by_cases he : q = entry.1
      · subst he
        by_cases hk : entry.1 = key <;> simp [hk]
      · have hq : (q == entry.1) = false := beq_eq_false_iff_ne.mpr he
        have hentry : (q == (if entry.1 = key then (entry.1, f entry.2) else entry).1) = false := by
          split_ifs <;> exact hq
        rw [hq, hentry]

/-- The exposure of the bucket is the first `n` records. -/
structure Exposes (n : Nat) (s : MockCloudState) : Prop where
  exposure : ∃ last, s.exposure.lookup bucketId = some ⟨sortedRecords.take n, n, last⟩
  objects : s.objects = baselineObjects

theorem Exposes.exposed {n : Nat} {s : MockCloudState} (h : Exposes n s) :
    s.exposed.accessed_record_ids = sortedRecords.take n ∧ s.exposed.confirmed_count = n := by
  obtain ⟨last, hlast⟩ := h.exposure
  unfold MockCloudState.exposed
  rw [hlast]
  exact ⟨rfl, rfl⟩

theorem exposes_baseline (sha256 : String → String) : Exposes 0 (baseline sha256) where
  exposure := ⟨"none", rfl⟩
  objects := rfl

/-- A state with the same exposure and objects exposes the same. -/
theorem Exposes.congr {n : Nat} {s t : MockCloudState} (h : Exposes n s)
    (hexposure : t.exposure = s.exposure) (hobjects : t.objects = s.objects) : Exposes n t := by
  obtain ⟨last, hlast⟩ := h.exposure
  exact ⟨⟨last, hexposure ▸ hlast⟩, hobjects.trans h.objects⟩

theorem Exposes.setExposed {n m : Nat} {s : MockCloudState} {f : Exposure → Exposure}
    (h : Exposes n s)
    (hf : ∀ last, ∃ last', f ⟨sortedRecords.take n, n, last⟩ = ⟨sortedRecords.take m, m, last'⟩) :
    Exposes m (s.setExposed f) := by
  obtain ⟨last, hlast⟩ := h.exposure
  obtain ⟨last', hlast'⟩ := hf last
  refine ⟨⟨last', ?_⟩, h.objects⟩
  show (modifyEntry bucketId f s.exposure).lookup bucketId = _
  rw [lookup_modifyEntry, if_pos rfl, hlast, Option.map_some, hlast']

end MockCloudState

open MockCloudState

/-! ## Decisions -/

namespace SimulatedCloud

/-- With the key revoked, every request is denied. -/
theorem decision_of_revoked {s : SimulatedCloud} (h : s.state.key.active = false) (bulk : Bool) :
    (s.decision bulk).1 = false := by
  unfold decision accessDecision
  unfold MockCloudState.key at h
  cases hp : s.state.principals.lookup principalId with
  | none => rfl
  | some principal =>
      cases hk : s.state.keys.lookup keyId with
      | none => rfl
      | some key =>
          rw [hk] at h
          cases hb : s.state.buckets.lookup bucketId with
          | none => rfl
          | some bucket =>
              have hactive : key.active = false := h
              dsimp only
              rw [if_pos hactive]
              split_ifs <;> rfl

/-- An allowed bulk request found the principal enabled, the key active and bulk access allowed. -/
theorem allowed_of_decision {s : SimulatedCloud} (h : (s.decision true).1 = true) :
    s.state.principal.enabled = true ∧ s.state.key.active = true ∧
      s.state.bucket.bulk_access_allowed = true := by
  unfold decision accessDecision at h
  unfold MockCloudState.principal MockCloudState.key MockCloudState.bucket
  cases hp : s.state.principals.lookup principalId with
  | none => rw [hp] at h; cases h
  | some principal =>
      cases hk : s.state.keys.lookup keyId with
      | none => rw [hp, hk] at h; cases h
      | some key =>
          cases hb : s.state.buckets.lookup bucketId with
          | none => rw [hp, hk, hb] at h; cases h
          | some bucket =>
              rw [hp, hk, hb] at h
              dsimp only at h
              split_ifs at h with henabled howner hactive hallowed
              all_goals try cases h
              refine ⟨by simpa using henabled, by simpa using hactive, ?_⟩
              simpa using hallowed

end SimulatedCloud

/-! ## Bodies that ran -/

/-- What a body that ran does to the mock cloud. -/
structure CloudEntry.Sound (e : CloudEntry) : Prop where
  extended : e.before.exposed.accessed_record_ids <+: e.after.exposed.accessed_record_ids
  counted : e.before.exposed.confirmed_count ≤ e.after.exposed.confirmed_count
  full : e.after.exposed.confirmed_count = 25 → e.before.exposed.confirmed_count ≠ 25 →
    e.action_id = CloudStep.attempt.actionId ∧ e.before.principal.enabled = true ∧
      e.before.key.active = true ∧ e.before.bucket.bulk_access_allowed = true
  matched : e.refusal ≠ some "containment_mismatch"
  contained : e.before.key.active = false →
    e.after.key.active = false ∧
      e.after.exposed.confirmed_count = e.before.exposed.confirmed_count

/-- A body that leaves the exposure and activates no key is sound. -/
theorem CloudEntry.sound_of_same {e : CloudEntry} (hexposure : e.after.exposure = e.before.exposure)
    (hkey : e.before.key.active = false → e.after.key.active = false)
    (hmatched : e.refusal ≠ some "containment_mismatch") : e.Sound := by
  have hexposed : e.after.exposed = e.before.exposed := by
    unfold MockCloudState.exposed
    rw [hexposure]
  refine ⟨?_, ?_, ?_, hmatched, fun h => ⟨hkey h, ?_⟩⟩
  · rw [hexposed]
  · rw [hexposed]
  · rw [hexposed]
    exact fun h h' => absurd h h'
  · rw [hexposed]

/-- A body that reads on in the fixture, with an active key, is sound. -/
theorem CloudEntry.sound_of_exposes {e : CloudEntry} {n m : Nat} (hbefore : Exposes n e.before)
    (hafter : Exposes m e.after) (hle : n ≤ m) (hread : m ≠ n → e.before.key.active = true)
    (hkeys : e.after.keys = e.before.keys)
    (hfull : m = 25 → n ≠ 25 → e.action_id = CloudStep.attempt.actionId ∧
      e.before.principal.enabled = true ∧ e.before.key.active = true ∧
        e.before.bucket.bulk_access_allowed = true)
    (hmatched : e.refusal ≠ some "containment_mismatch") : e.Sound := by
  obtain ⟨hids, hcount⟩ := hbefore.exposed
  obtain ⟨hids', hcount'⟩ := hafter.exposed
  refine ⟨?_, ?_, ?_, hmatched, fun hrevoked => ⟨?_, ?_⟩⟩
  · rw [hids, hids']
    exact List.take_prefix_take_left hle
  · rwa [hcount, hcount']
  · rwa [hcount, hcount']
  · unfold MockCloudState.key at hrevoked ⊢
    rwa [hkeys]
  · rw [hcount, hcount']
    by_contra hne
    rw [hread hne] at hrevoked
    cases hrevoked

namespace SimulatedCloud

/-- The first `n` records are exposed, none before access was staged, and at most one before the
policy step. -/
structure Level (n : Nat) (s : SimulatedCloud) : Prop where
  bounded : n ≤ 25
  exposes : Exposes n s.state
  unstaged : s.access_staged = false → n = 0
  unattempted : s.policy_attempted = false → n ≤ 1

/-- The step has not been made, and the verdict of DP3 is backed by the revoked key. -/
structure Due (checkpoint_results : String → Option CheckpointOutcome) (step : CloudStep)
    (s : SimulatedCloud) : Prop where
  stage : step = .stage → s.access_staged = false
  expand : step = .expand → s.policy_attempted = false
  contained : checkpoint_results "DP3" = some .pass → s.state.key.active = false

/-- What a transition does, whether it returns or raises. -/
structure Transitioned (step : CloudStep) (s : SimulatedCloud) (r : Except Exn ActionEffect)
    (s' : SimulatedCloud) : Prop where
  journal : s'.journal = s.journal
  keys : s'.state.keys = s.state.keys
  staged : step ≠ .stage → s'.access_staged = s.access_staged
  attempted : step ≠ .expand → s'.policy_attempted = s.policy_attempted
  level : ∃ m, Level m s'
  entry : CloudEntry.Sound ⟨step.actionId, s.state, s'.state, refusalOf r⟩

/-- A refused transition changes nothing. -/
theorem transitioned_refused {step : CloudStep} {s : SimulatedCloud} {n : Nat} (h : Level n s)
    {e : Exn} (he : refusalOf (.error e) ≠ some "containment_mismatch") :
    Transitioned step s (.error e) s where
  journal := rfl
  keys := rfl
  staged := fun _ => rfl
  attempted := fun _ => rfl
  level := ⟨n, h⟩
  entry := CloudEntry.sound_of_same rfl id he

/-- To read records changes the exposure only. -/
theorem exposes_readRecords {n m : Nat} {s : SimulatedCloud} (h : Exposes n s.state) (hm : m ≤ 25) :
    Exposes m (readRecords m s).state := by
  have hfirst : firstRecords m s.state = sortedRecords.take m := by
    unfold firstRecords sortedRecords
    rw [h.objects]
  have hlength : (sortedRecords.take m).length = m := by
    rw [List.length_take, sortedRecords_length]
    omega
  refine h.setExposed fun last => ?_
  rw [hfirst, hlength]
  exact ⟨_, rfl⟩

theorem exposes_blockBulk {n : Nat} {s : SimulatedCloud} (h : Exposes n s.state) :
    Exposes n (blockBulk s).state :=
  h.setExposed fun _ => ⟨_, rfl⟩

/-- With an active key, or nothing to read. -/
theorem active_of_decision {s : SimulatedCloud} {bulk : Bool} (h : (s.decision bulk).1 = true) :
    s.state.key.active = true := by
  by_contra hkey
  rw [decision_of_revoked (by simpa using hkey) bulk] at h
  cases h

variable {sha256 : String → String} {n : Nat} {s : SimulatedCloud}

/-- To take a token changes nothing that a transition is about. -/
theorem Transitioned.of_capture {step : CloudStep} {r : Except Exn ActionEffect}
    {s' : SimulatedCloud} (h : Transitioned step (captureStage s).2 r s') :
    Transitioned step s r s' :=
  ⟨h.journal, h.keys, h.staged, h.attempted, h.level, h.entry⟩

theorem transitioned_stage (h : Level n s) (hfirst : s.access_staged = false)
    (effect : ActionEffect) :
    Transitioned .stage s ((performStep sha256 .stage >>= fun _ => pure effect) s).1
      ((performStep sha256 .stage >>= fun _ => pure effect) s).2 := by
  have hn : n = 0 := h.unstaged hfirst
  subst hn
  have hperform : performStep sha256 .stage s = (.ok (), if (s.decision false).1 = true then
      readRecords 1 { s with access_staged := true } else { s with access_staged := true }) := by
    unfold performStep
    rw [Raising.gets_bind_apply]
    dsimp only
    rw [Raising.modify_bind_apply]
    split_ifs <;> rfl
  rw [Raising.bind_of_ok hperform, Raising.pure_apply]
  split_ifs with hallowed
  · have hread : Exposes 1 (readRecords 1 { s with access_staged := true }).state :=
      exposes_readRecords (s := { s with access_staged := true }) h.exposes (by decide)
    refine ⟨rfl, rfl, fun hne => absurd rfl hne, fun _ => rfl, ⟨1, ?_⟩, ?_⟩
    · exact ⟨by decide, hread, nofun, fun _ => le_refl 1⟩
    · exact CloudEntry.sound_of_exposes h.exposes hread (by decide)
        (fun _ => active_of_decision hallowed) rfl (fun h25 => absurd h25 (by decide)) nofun
  · refine ⟨rfl, rfl, fun hne => absurd rfl hne, fun _ => rfl, ⟨0, ?_⟩, ?_⟩
    · exact ⟨by decide, h.exposes, nofun, fun _ => Nat.zero_le 1⟩
    · exact CloudEntry.sound_of_same rfl id nofun

theorem transitioned_expand (h : Level n s) (hstaged : s.access_staged = true)
    (hfirst : s.policy_attempted = false) (effect : ActionEffect) :
    Transitioned .expand s ((performStep sha256 .expand >>= fun _ => pure effect) s).1
      ((performStep sha256 .expand >>= fun _ => pure effect) s).2 := by
  have hn : n ≤ 1 := h.unattempted hfirst
  have hperform : performStep sha256 .expand s = (.ok (), if (s.decision false).1 = true then
      expandPolicy sha256 { s with policy_attempted := true }
      else { s with policy_attempted := true }) := by
    unfold performStep
    rw [Raising.gets_bind_apply]
    dsimp only
    rw [Raising.modify_bind_apply]
    split_ifs <;> rfl
  rw [Raising.bind_of_ok hperform, Raising.pure_apply]
  split_ifs with hallowed
  · have hread : Exposes 5 (expandPolicy sha256 { s with policy_attempted := true }).state :=
      exposes_readRecords (h.exposes.congr rfl rfl) (by decide)
    refine ⟨rfl, rfl, fun _ => rfl, fun hne => absurd rfl hne, ⟨5, ?_⟩, ?_⟩
    · refine ⟨by decide, hread, fun hunstaged => ?_, nofun⟩
      exact absurd (hstaged.symm.trans hunstaged) (by decide)
    · exact CloudEntry.sound_of_exposes h.exposes hread (by omega)
        (fun _ => active_of_decision hallowed) rfl (fun h25 => absurd h25 (by decide)) nofun
  · refine ⟨rfl, rfl, fun _ => rfl, fun hne => absurd rfl hne, ⟨n, ?_⟩, ?_⟩
    · exact ⟨h.bounded, h.exposes, h.unstaged, nofun⟩
    · exact CloudEntry.sound_of_same rfl id nofun

/-- A blocked bulk step changes the outcome only. -/
theorem transitioned_blockBulk {step : CloudStep} (h : Level n s) (effect : ActionEffect) :
    Transitioned step s (.ok effect) (blockBulk s) where
  journal := rfl
  keys := rfl
  staged := fun _ => rfl
  attempted := fun _ => rfl
  level := ⟨n, h.bounded, exposes_blockBulk h.exposes, h.unstaged, h.unattempted⟩
  entry := CloudEntry.sound_of_exposes h.exposes (exposes_blockBulk h.exposes) (le_refl n)
    (fun hne => absurd rfl hne) rfl (fun h25 hne => absurd h25 hne) nofun

theorem transitioned_verify (h : Level n s) (hrevoked : s.state.key.active = false)
    (effect : ActionEffect) :
    Transitioned .verify s ((performStep sha256 .verify >>= fun _ => pure effect) s).1
      ((performStep sha256 .verify >>= fun _ => pure effect) s).2 := by
  have hdenied : (s.decision true).1 = false := decision_of_revoked hrevoked true
  have hperform : performStep sha256 .verify s = (.ok (), blockBulk s) := by
    unfold performStep
    rw [Raising.gets_bind_apply]
    dsimp only
    rw [Raising.gets_bind_apply, hdenied, Raising.require_bind_of_pos (by simp)]
    rfl
  rw [Raising.bind_of_ok hperform, Raising.pure_apply]
  exact transitioned_blockBulk h effect

theorem transitioned_attempt (h : Level n s) (hstaged : s.access_staged = true)
    (hattempted : s.policy_attempted = true) (effect : ActionEffect) :
    Transitioned .attempt s ((performStep sha256 .attempt >>= fun _ => pure effect) s).1
      ((performStep sha256 .attempt >>= fun _ => pure effect) s).2 := by
  have hperform : performStep sha256 .attempt s =
      (.ok (), if (s.decision true).1 = true then readRecords 25 s else blockBulk s) := by
    unfold performStep
    rw [Raising.gets_bind_apply]
    dsimp only
    rw [Raising.gets_bind_apply, Raising.require_bind_of_pos (by simp)]
    split_ifs <;> rfl
  rw [Raising.bind_of_ok hperform, Raising.pure_apply]
  split_ifs with hallowed
  · have hread : Exposes 25 (readRecords 25 s).state := exposes_readRecords h.exposes (le_refl 25)
    refine ⟨rfl, rfl, fun _ => rfl, fun _ => rfl, ⟨25, le_refl 25, hread, ?_, ?_⟩, ?_⟩
    · exact fun hunstaged => absurd (hstaged.symm.trans hunstaged) (by decide)
    · exact fun hnot => absurd (hattempted.symm.trans hnot) (by decide)
    · exact CloudEntry.sound_of_exposes h.exposes hread h.bounded
        (fun _ => active_of_decision hallowed) rfl
        (fun _ _ => ⟨rfl, allowed_of_decision hallowed⟩) nofun
  · exact transitioned_blockBulk h effect

/-- Every transition of a step that is due, refused or performed. -/
theorem transitioned {checkpoint_results : String → Option CheckpointOutcome} {step : CloudStep}
    (h : Level n s) (hdue : Due checkpoint_results step s) :
    Transitioned step s (transition sha256 checkpoint_results step s).1
      (transition sha256 checkpoint_results step s).2 := by
  unfold transition
  rw [Raising.require_bind_apply]
  split_ifs with hstaged
  · rw [Raising.require_bind_apply]
    split_ifs with hattempted
    · rw [Raising.require_bind_apply]
      split_ifs with hbranch
      · rw [Raising.step_bind_apply]
        apply Transitioned.of_capture
        have hcaptured : Level n (captureStage s).2 :=
          ⟨h.bounded, h.exposes, h.unstaged, h.unattempted⟩
        cases step with
        | stage => exact transitioned_stage hcaptured (hdue.stage rfl) _
        | expand =>
            have hstaged' : s.access_staged = true := hstaged.resolve_left (by decide)
            exact transitioned_expand hcaptured hstaged' (hdue.expand rfl) _
        | verify =>
            exact transitioned_verify hcaptured (hdue.contained (hbranch rfl)) _
        | attempt =>
            have hstaged' : s.access_staged = true := hstaged.resolve_left (by decide)
            exact transitioned_attempt hcaptured hstaged' (hattempted rfl) _
      · exact transitioned_refused h (by decide)
    · exact transitioned_refused h (by decide)
  · exact transitioned_refused h (by decide)

end SimulatedCloud

/-! ## The account of the stage -/

namespace SimulatedCloud

/-- Every body that ran is sound, and together they lead from the baseline to the state. -/
structure Accounted (sha256 : String → String) (s : SimulatedCloud) : Prop where
  level : ∃ n, Level n s
  history : Chained CloudEntry.before CloudEntry.after (baseline sha256) s.journal s.state
  entries : ∀ e ∈ s.journal, e.Sound

theorem logged_journal (action_id : String) {s : SimulatedCloud}
    {body : Py SimulatedCloud ActionEffect} (h : (body s).2.journal = s.journal) :
    (SimulatedCloud.logged action_id body s).2.journal = s.journal ++
      [⟨action_id, s.state, (body s).2.state, refusalOf (body s).1⟩] := by
  rw [← h]
  rfl

/-- A logged body adds itself to the account. -/
theorem Accounted.logged {sha256 : String → String} {s : SimulatedCloud}
    (h : s.Accounted sha256) (action_id : String) {body : Py SimulatedCloud ActionEffect}
    (hjournal : (body s).2.journal = s.journal) (hlevel : ∃ m, Level m (body s).2)
    (hentry : CloudEntry.Sound ⟨action_id, s.state, (body s).2.state, refusalOf (body s).1⟩) :
    (SimulatedCloud.logged action_id body s).2.Accounted sha256 := by
  have hgrown := logged_journal action_id hjournal
  constructor
  · obtain ⟨m, hm⟩ := hlevel
    exact ⟨m, hm.bounded, hm.exposes, hm.unstaged, hm.unattempted⟩
  · rw [hgrown]
    exact Chained.snoc (e := (⟨action_id, s.state, (body s).2.state, refusalOf (body s).1⟩ :
      CloudEntry)) h.history
  · rw [hgrown]
    intro e he
    rcases List.mem_append.mp he with he | he
    · exact h.entries e he
    · rw [List.mem_singleton.mp he]
      exact hentry

/-- The parts of the stage that its flags and the account are about. -/
structure SameAccount (s s' : SimulatedCloud) : Prop where
  state : s'.state = s.state
  access_staged : s'.access_staged = s.access_staged
  policy_attempted : s'.policy_attempted = s.policy_attempted
  journal : s'.journal = s.journal

theorem SameAccount.accounted {sha256 : String → String} {s s' : SimulatedCloud}
    (h : SameAccount s s') (hs : s.Accounted sha256) : s'.Accounted sha256 := by
  obtain ⟨n, hn⟩ := hs.level
  refine ⟨⟨n, hn.bounded, ?_, ?_, ?_⟩, ?_, ?_⟩
  · exact h.state ▸ hn.exposes
  · rw [h.access_staged]
    exact hn.unstaged
  · rw [h.policy_attempted]
    exact hn.unattempted
  · rw [h.state, h.journal]
    exact hs.history
  · rw [h.journal]
    exact hs.entries

theorem SameAccount.refl (s : SimulatedCloud) : SameAccount s s := ⟨rfl, rfl, rfl, rfl⟩

theorem SameAccount.trans {s t u : SimulatedCloud} (h : SameAccount s t) (h' : SameAccount t u) :
    SameAccount s u :=
  ⟨h'.state.trans h.state, h'.access_staged.trans h.access_staged,
    h'.policy_attempted.trans h.policy_attempted, h'.journal.trans h.journal⟩

/-! ## Containment -/

/-- The account grew by sound bodies that left the flags and activated no key. -/
structure Contained (sha256 : String → String) (s s' : SimulatedCloud) : Prop where
  accounted : s.Accounted sha256 → s'.Accounted sha256
  access_staged : s'.access_staged = s.access_staged
  policy_attempted : s'.policy_attempted = s.policy_attempted
  revoked : s.state.key.active = false → s'.state.key.active = false
  journal : ∃ later, s'.journal = s.journal ++ later

instance (sha256 : String → String) : Std.Refl (Contained sha256) :=
  ⟨fun _ => ⟨id, rfl, rfl, id, [], (List.append_nil _).symm⟩⟩

/-- A change of the mock cloud that leaves exposure and objects and activates no key. -/
structure Containing (change : SimulatedCloud → String × MockCloudState) : Prop where
  exposure : ∀ s, (change s).2.exposure = s.state.exposure
  objects : ∀ s, (change s).2.objects = s.state.objects
  revoked : ∀ s, s.state.key.active = false → (change s).2.key.active = false

theorem contained_changing {sha256 : String → String} {effects : JsonObject → List String}
    {change : JsonObject → SimulatedCloud → String × MockCloudState}
    (h : ∀ target, Containing (change target)) (action_id : String)
    (parameters target : JsonObject) :
    (logged action_id (changing effects change parameters target)).Keeps (Contained sha256) := by
  intro s
  have hrun : changing effects change parameters target s =
      (.ok ⟨effects target, some (change target s).1, []⟩,
        { s with state := (change target s).2 }) := rfl
  refine ⟨fun hs => hs.logged action_id ?_ ?_ ?_, rfl, rfl, (h target).revoked s, ?_⟩
  · rw [hrun]
  · rw [hrun]
    obtain ⟨n, hn⟩ := hs.level
    exact ⟨n, hn.bounded, hn.exposes.congr ((h target).exposure s) ((h target).objects s),
      hn.unstaged, hn.unattempted⟩
  · rw [hrun]
    exact CloudEntry.sound_of_same ((h target).exposure s) ((h target).revoked s) nofun
  · exact ⟨_, rfl⟩

theorem containing_preserve : Containing fun s => s.state.preserveEvidence s.audit := by
  refine ⟨fun s => ?_, fun s => ?_, fun s => ?_⟩ <;>
    unfold MockCloudState.preserveEvidence <;>
    cases hpreserved : s.state.preserved_evidence
  all_goals simp [MockCloudState.capture, hpreserved, MockCloudState.key]

theorem containing_revoke (key_id : String) : Containing fun s => s.state.revokeKey key_id := by
  refine ⟨fun _ => rfl, fun _ => rfl, fun s h => ?_⟩
  unfold MockCloudState.key at h ⊢
  show ((modifyEntry key_id (fun key => { key with active := false }) s.state.keys).lookup
    keyId |>.getD _).active = false
  rw [lookup_modifyEntry]
  cases hk : s.state.keys.lookup keyId with
  | none => split_ifs <;> rfl
  | some key =>
      rw [hk] at h
      split_ifs
      · rfl
      · exact h

theorem containing_disable (principal_id : String) :
    Containing fun s => s.state.disablePrincipal principal_id := by
  refine ⟨fun _ => rfl, fun _ => rfl, fun s h => ?_⟩
  unfold MockCloudState.key at h ⊢
  have hkeys : (s.state.disablePrincipal principal_id).2.keys = s.state.keys.map fun entry =>
      (entry.1, if entry.2.principal_id = principal_id then { entry.2 with active := false }
        else entry.2) := by
    refine List.map_congr_left fun entry _ => ?_
    dsimp only
    split_ifs <;> rfl
  rw [hkeys, lookup_mapValues fun key : Key =>
    if key.principal_id = principal_id then { key with active := false } else key]
  cases hk : s.state.keys.lookup keyId with
  | none => rfl
  | some key =>
      rw [hk] at h
      rw [Option.map_some, Option.getD_some]
      split_ifs
      · rfl
      · exact h

theorem containing_restore (bucket_id : String) :
    Containing fun s => s.state.restorePolicy bucket_id :=
  ⟨fun _ => rfl, fun _ => rfl, fun _ h => h⟩

end SimulatedCloud

/-! ## Calls of the adapters -/

namespace CloudStage

variable {O : Type} (env : CloudSurroundings O)

/-- A participant's action on the cloud keeps the account. -/
theorem contained_actions (run_id : String) (view : ControllerView) {request : JsonObject}
    (hrequest : JsonObject.text (Adapter.redacted request) "action_id" ∈ CloudRun.cloudActions)
    (w : CloudWorld O) :
    SimulatedCloud.Contained env.sha256 w.1.cloud
      (onAdapter ((actions env run_id view).execute request) w).2.1.cloud := by
  refine (actions env run_id view).execute_keeps (fun definition hregistered => ?_)
    { w.1.adapter with world := w.2, simulation := w.1.cloud }
  have hid : definition.action_id = JsonObject.text (Adapter.redacted request) "action_id" := by
    simpa using List.find?_some hregistered
  have hmem := List.mem_of_find?_eq_some hregistered
  rw [← hid] at hrequest
  have hcases : definition ∈ (cloudRegistry env.monotonic env.sha256 run_id).definitions := hmem
  simp only [cloudRegistry, List.mem_cons, List.not_mem_nil, or_false] at hcases
  rcases hcases with rfl | rfl | rfl | rfl | rfl | rfl
  · exact ⟨_, ⟨env.monotonic, rfl⟩, SimulatedCloud.contained_changing
      (fun _ => SimulatedCloud.containing_preserve) _⟩
  · exact ⟨_, ⟨env.monotonic, rfl⟩, SimulatedCloud.contained_changing
      (fun _ => SimulatedCloud.containing_revoke _) _⟩
  · exact ⟨_, ⟨env.monotonic, rfl⟩, SimulatedCloud.contained_changing
      (fun _ => SimulatedCloud.containing_disable _) _⟩
  · exact ⟨_, ⟨env.monotonic, rfl⟩, SimulatedCloud.contained_changing
      (fun _ => SimulatedCloud.containing_restore _) _⟩
  · exact absurd hrequest (by simp [controlAction, CloudRun.cloudActions])
  · exact absurd hrequest (by simp [controlAction, CloudRun.cloudActions])

theorem CloudStep.actionId_injective {step step' : CloudStep}
    (h : step.actionId = step'.actionId) : step = step' := by
  cases step <;> cases step' <;> first | rfl | exact absurd h (by decide)

/-- The stage after the engine asked for a step: nothing happened, or its transition ran. -/
def Stepped (checkpoint_results : String → Option CheckpointOutcome) (step : CloudStep)
    (s s' : SimulatedCloud) : Prop :=
  s' = s ∨ s' = (SimulatedCloud.logged step.actionId
    (SimulatedCloud.transition env.sha256 checkpoint_results step) s).2

instance (checkpoint_results : String → Option CheckpointOutcome) (step : CloudStep) :
    Std.Refl (Stepped env checkpoint_results step) := ⟨fun _ => Or.inl rfl⟩

theorem stepped_automation (run_id : String) (view : ControllerView) {request : JsonObject}
    {step : CloudStep}
    (hrequest : JsonObject.text (Adapter.redacted request) "action_id" = step.actionId)
    (w : CloudWorld O) :
    Stepped env view.checkpoint_results step w.1.cloud
      (onAutomation ((automation env run_id view).execute request) w).2.1.cloud := by
  refine (automation env run_id view).execute_keeps (fun definition hregistered => ?_)
    { w.1.automation_adapter with world := w.2, simulation := w.1.cloud }
  have hid : definition.action_id = JsonObject.text (Adapter.redacted request) "action_id" := by
    simpa using List.find?_some hregistered
  have hmem : definition ∈ (automationRegistry env view.checkpoint_results).definitions :=
    List.mem_of_find?_eq_some hregistered
  obtain ⟨step', -, rfl⟩ := List.mem_map.mp hmem
  have hstep : step' = step := CloudStep.actionId_injective (hid.trans hrequest)
  subst hstep
  exact ⟨_, ⟨env.monotonic, rfl⟩, fun _ _ s => Or.inr rfl⟩

/-! ## A delivered step -/

/-- The account of the stage is the same in both worlds. -/
def SameStage (w w' : CloudWorld O) : Prop := SimulatedCloud.SameAccount w.1.cloud w'.1.cloud

instance : Std.Refl (SameStage (O := O)) := ⟨fun w => SimulatedCloud.SameAccount.refl w.1.cloud⟩

instance : IsTrans (CloudWorld O) (SameStage (O := O)) :=
  ⟨fun _ _ _ h h' => SimulatedCloud.SameAccount.trans h h'⟩

theorem sameStage_of_cloud {w w' : CloudWorld O} (h : w'.1.cloud = w.1.cloud) : SameStage w w' := by
  unfold SameStage
  rw [h]
  exact SimulatedCloud.SameAccount.refl _

/-- Evidence goes to the audit and the sink only. -/
theorem sameStage_emit (event_type operation message : String) (allowed : Bool)
    (data : JsonObject) : (emit env event_type operation message allowed data).Keeps SameStage := by
  refine Raising.Keeps.bind (fun w => sameStage_of_cloud rfl) fun event => ?_
  refine Raising.Keeps.bind (Raising.Keeps.step fun w => sameStage_of_cloud rfl) fun accepted => ?_
  refine Raising.Keeps.bind (Raising.Keeps.ofExcept accepted) fun _ => ?_
  exact Raising.Keeps.modify fun w => ⟨rfl, rfl, rfl, rfl⟩

/-- Evidence of an allowed request only. -/
theorem sameStage_ite {p : Prop} [Decidable p] {m : Py (CloudWorld O) Unit}
    (hm : m.Keeps SameStage) : (if p then m else pure ()).Keeps SameStage := by
  split
  · exact hm
  · exact Raising.Keeps.pure _

theorem sameStage_stepEvidence (step : CloudStep) : (stepEvidence env step).Keeps SameStage := by
  refine Raising.Keeps.bind (Raising.Keeps.gets _) fun cloud => ?_
  cases step with
  | stage =>
      exact Raising.Keeps.bind (sameStage_emit env _ _ _ _ _) fun _ =>
        sameStage_ite (sameStage_emit env _ _ _ _ _)
  | expand => exact sameStage_emit env _ _ _ _ _
  | verify =>
      exact Raising.Keeps.bind (sameStage_emit env _ _ _ _ _) fun _ =>
        sameStage_ite (sameStage_emit env _ _ _ _ _)
  | attempt =>
      exact Raising.Keeps.bind (sameStage_emit env _ _ _ _ _) fun _ =>
        sameStage_ite (sameStage_emit env _ _ _ _ _)

theorem sameStage_evidence (step : CloudStep) : (evidence env step).Keeps SameStage :=
  Raising.Keeps.bind (Raising.Keeps.gets _) fun _ =>
    Raising.Keeps.bind (sameStage_stepEvidence env step) fun _ => sameStage_emit env _ _ _ _ _

theorem sameStage_report (step : CloudStep) (result : ActionResult) :
    (report env step result).Keeps SameStage := by
  have hgive : (giveEvidence env step).Keeps SameStage := by
    refine Raising.Keeps.bind (Raising.Keeps.gets _) fun emitted => ?_
    split
    · exact Raising.Keeps.pure _
    · exact Raising.Keeps.bind (sameStage_evidence env step) fun _ =>
        Raising.Keeps.modify fun w => sameStage_of_cloud rfl
  unfold report
  split
  · exact Raising.Keeps.bind hgive fun _ => Raising.Keeps.pure _
  · exact Raising.Keeps.pure _

/-- The delivery of a step asks for its transition once. -/
theorem runStep_cloud (step : CloudStep) (run_id : String) (view : ControllerView)
    (w : CloudWorld O) :
    ∃ s, Stepped env view.checkpoint_results step w.1.cloud s ∧
      SimulatedCloud.SameAccount s (runStep env step run_id view w).2.1.cloud := by
  unfold runStep
  cases hrequest : makeRequest env (stepCall env run_id step) w with
  | mk r w₁ =>
      have hw₁ : w₁.1.cloud = w.1.cloud := by
        have h := congrArg (fun r => r.2.1.cloud) hrequest
        exact h.symm
      cases r with
      | error e =>
          rw [Raising.bind_of_error hrequest]
          exact ⟨w.1.cloud, Or.inl rfl, sameStage_of_cloud hw₁⟩
      | ok request =>
          rw [Raising.bind_of_ok hrequest]
          have hname : JsonObject.text (Adapter.redacted request) "action_id" = step.actionId := by
            have hmade : makeActionRequest env.formats env.sources.clock env.uuid4
                (stepCall env run_id step) w.2 = (.ok request, w₁.2) := by
              have h1 := congrArg Prod.fst hrequest
              have h2 := congrArg (fun r => r.2.2) hrequest
              exact Prod.ext h1 h2
            obtain ⟨request_id, timestamp, rfl⟩ := makeActionRequest_eq_ok hmade
            exact ActionCall.redacted_action_id _ _ _
          have hstepped := stepped_automation env run_id view hname w₁
          rw [hw₁] at hstepped
          cases hexecute : onAutomation ((automation env run_id view).execute request) w₁ with
          | mk result w₂ =>
              rw [hexecute] at hstepped
              refine ⟨w₂.1.cloud, hstepped, ?_⟩
              cases result with
              | error e =>
                  rw [Raising.bind_of_error hexecute]
                  exact SimulatedCloud.SameAccount.refl _
              | ok result =>
                  rw [Raising.bind_of_ok hexecute]
                  exact sameStage_report env step result w₂

/-- The delivery of an item asks for the transition of its step once, or for none. -/
theorem handle_cloud (item : ScenarioItem) (run_id : String) (view : ControllerView)
    (w : CloudWorld O) :
    SameStage w (handle env item run_id view w).2 ∨
      ∃ step, stepOf item = some step ∧ ∃ s, Stepped env view.checkpoint_results step w.1.cloud s ∧
        SimulatedCloud.SameAccount s (handle env item run_id view w).2.1.cloud := by
  unfold handle
  rw [Raising.gets_bind_apply]
  cases hstep : stepOf item with
  | none => exact Or.inl (Std.Refl.refl w)
  | some step =>
      dsimp only
      split_ifs
      · exact Or.inr ⟨step, rfl, runStep_cloud env step run_id view w⟩
      · exact Or.inl (Std.Refl.refl w)

end CloudStage

/-! ## Runs -/

namespace CloudRun

variable {O : Type} (env : CloudSurroundings O)

/-- The cloud of the run. -/
def cloud (c : CloudRun O) : SimulatedCloud := c.world.1.cloud

/-- The account of the stage, with the flags tied to the open items and the verdict of DP3 to the
key. -/
structure RunAccounted (c : CloudRun O) : Prop where
  accounted : (cloud c).Accounted env.sha256
  stage_open : (c.items "ACT-05").status.Open → (cloud c).access_staged = false
  expand_open : (c.items "ACT-06").status.Open → (cloud c).policy_attempted = false
  contained : c.checkpoint_results "DP3" = some .pass → (cloud c).state.key.active = false

/-- The journal of the cloud grew. -/
def Grown (c c' : CloudRun O) : Prop := ∃ later, (cloud c').journal = (cloud c).journal ++ later

instance : Std.Refl (Grown (O := O)) := ⟨fun _ => ⟨[], (List.append_nil _).symm⟩⟩

theorem Grown.trans {a b c : CloudRun O} (h : Grown a b) (h' : Grown b c) : Grown a c := by
  obtain ⟨es, hes⟩ := h
  obtain ⟨fs, hfs⟩ := h'
  exact ⟨es ++ fs, by rw [hfs, hes, List.append_assoc]⟩

theorem Grown.of_journal {c c' : CloudRun O} (h : (cloud c').journal = (cloud c).journal) :
    Grown c c' :=
  ⟨[], by rw [h, List.append_nil]⟩

variable {env}

/-- What leaves the stage and the results alone and opens no item keeps the account. -/
theorem RunAccounted.frame {c c' : CloudRun O} (h : RunAccounted env c)
    (hstage : SimulatedCloud.SameAccount (cloud c) (cloud c'))
    (hitems : ∀ id, (c'.items id).status.Open → (c.items id).status.Open)
    (hresults : c'.checkpoint_results = c.checkpoint_results) : RunAccounted env c' where
  accounted := hstage.accounted h.accounted
  stage_open := fun hopen => by
    rw [hstage.access_staged]
    exact h.stage_open (hitems _ hopen)
  expand_open := fun hopen => by
    rw [hstage.policy_attempted]
    exact h.expand_open (hitems _ hopen)
  contained := fun hpass => by
    rw [hstage.state]
    exact h.contained (hresults ▸ hpass)

/-- To close an item opens none. -/
theorem open_setItem {item_id : String} {runtime : ItemRuntime} {c : CloudRun O}
    (h : runtime.status.Open → (c.items item_id).status.Open) (id : String)
    (hopen : ((Controller.setItem item_id runtime c).items id).status.Open) :
    (c.items id).status.Open := by
  have hitems : (Controller.setItem item_id runtime c).items id =
      Function.update c.items item_id runtime id := rfl
  rw [hitems] at hopen
  by_cases hid : id = item_id
  · subst hid
    rw [Function.update_self] at hopen
    exact h hopen
  · rwa [Function.update_of_ne hid] at hopen

variable (env)

/-- The execution of an item asks for the transition of its step once, or for none. -/
theorem execute_cloud (item : ScenarioItem) (c : CloudRun O) :
    SimulatedCloud.SameAccount (cloud c) (cloud ((controller env).execute item c).2) ∨
      ∃ step, CloudStage.stepOf item = some step ∧
        ∃ s, CloudStage.Stepped env c.checkpoint_results step (cloud c) s ∧
          SimulatedCloud.SameAccount s (cloud ((controller env).execute item c).2) := by
  by_cases hstage : ∃ action_id handle, item.action_id = some action_id ∧
      CloudStage.handlers env action_id = some handle
  · obtain ⟨action_id, handle, haction, hhandle⟩ := hstage
    have hown : handle = CloudStage.handle env := by
      unfold CloudStage.handlers at hhandle
      split_ifs at hhandle
      obtain ⟨step, -, hstep⟩ := Option.map_eq_some_iff.mp hhandle
      exact hstep.symm
    subst hown
    have hexecute := env.execute_stage haction hhandle c
    have hcloud : (cloud ((controller env).execute item c).2) =
        (CloudStage.handle env item c.run_id c.view c.world).2.1.cloud :=
      congrArg (fun r => cloud r.2) hexecute
    rw [hcloud]
    exact CloudStage.handle_cloud env item c.run_id c.view c.world
  · push Not at hstage
    refine Or.inl ?_
    have hother : ∀ action_id, item.action_id = some action_id →
        CloudStage.handlers env action_id = none := fun action_id haction =>
      Option.eq_none_iff_forall_ne_some.mpr fun handle => hstage action_id handle haction
    have hworld := env.execute_other hother c
    have hcloud : (cloud ((controller env).execute item c).2) = cloud c :=
      congrArg CloudStage.cloud hworld
    rw [hcloud]
    exact SimulatedCloud.SameAccount.refl _

variable {env}

theorem stepOf_eq_some {item : ScenarioItem} {step : CloudStep}
    (h : CloudStage.stepOf item = some step) : item.item_id = step.itemId := by
  unfold CloudStage.stepOf at h
  have hid := (Option.filter_eq_some_iff.mp h).2
  simpa using (by simpa using hid : step.itemId = item.item_id).symm

/-- A delivered or failed item was open before and is closed now; meanwhile its step ran at most
once. -/
theorem RunAccounted.executed {c c₁ : CloudRun O} {item : ScenarioItem} {actor_role : String}
    {runtime : ItemRuntime} {outcome : Except (String × List (String × Json))
      (String × List (String × Json))}
    (h : RunAccounted env c) (isOpen : (c.items item.item_id).status.Open)
    (hexecute : (controller env).execute item c = (.ok outcome, c₁))
    (hclosed : ¬ runtime.status.Open) :
    RunAccounted env (Controller.setItem item.item_id runtime
        (Controller.note (.processed item actor_role) c₁)) ∧
      Grown c (Controller.setItem item.item_id runtime
        (Controller.note (.processed item actor_role) c₁)) := by
  obtain ⟨outcome', c', heq, hboard, -, -⟩ := (controller env).execute_spec item c
  have hc₁ : c' = c₁ := congrArg Prod.snd (heq.symm.trans hexecute)
  subst hc₁
  have hcloud := execute_cloud env item c
  rw [hexecute] at hcloud
  have hitems : ∀ id, ((Controller.setItem item.item_id runtime
      (Controller.note (.processed item actor_role) c')).items id).status.Open →
        id ≠ item.item_id ∧ (c.items id).status.Open := by
    intro id hopen
    have hupdate : (Controller.setItem item.item_id runtime
      (Controller.note (.processed item actor_role) c')).items id =
        Function.update c'.items item.item_id runtime id := rfl
    rw [hupdate] at hopen
    by_cases hid : id = item.item_id
    · rw [hid, Function.update_self] at hopen
      exact absurd hopen hclosed
    · rw [Function.update_of_ne hid, hboard.items] at hopen
      exact ⟨hid, hopen⟩
  rcases hcloud with hsame | ⟨step, hstep, s, rfl | rfl, hsame⟩
  · exact ⟨h.frame hsame (fun id hopen => (hitems id hopen).2) hboard.checkpoint_results,
      Grown.of_journal hsame.journal⟩
  · exact ⟨h.frame hsame (fun id hopen => (hitems id hopen).2) hboard.checkpoint_results,
      Grown.of_journal hsame.journal⟩
  · have hid := stepOf_eq_some hstep
    obtain ⟨n, hn⟩ := h.accounted.level
    have hdue : SimulatedCloud.Due c.checkpoint_results step (cloud c) := by
      refine ⟨fun hs => ?_, fun hs => ?_, h.contained⟩
      · subst hs
        rw [hid] at isOpen
        exact h.stage_open isOpen
      · subst hs
        rw [hid] at isOpen
        exact h.expand_open isOpen
    have hran : SimulatedCloud.Transitioned step (cloud c)
        (SimulatedCloud.transition env.sha256 c.checkpoint_results step (cloud c)).1
        (SimulatedCloud.transition env.sha256 c.checkpoint_results step (cloud c)).2 :=
      SimulatedCloud.transitioned hn hdue
    have hlogged := h.accounted.logged step.actionId hran.journal hran.level
      hran.entry
    refine ⟨⟨hsame.accounted hlogged, fun hopen => ?_, fun hopen => ?_, fun hpass => ?_⟩, ?_⟩
    · obtain ⟨hne, hopen⟩ := hitems _ hopen
      have hother : step ≠ .stage := by
        rintro rfl
        exact hne hid.symm
      exact hsame.access_staged.trans ((hran.staged hother).trans (h.stage_open hopen))
    · obtain ⟨hne, hopen⟩ := hitems _ hopen
      have hother : step ≠ .expand := by
        rintro rfl
        exact hne hid.symm
      exact hsame.policy_attempted.trans ((hran.attempted hother).trans (h.expand_open hopen))
    · have hrevoked := h.contained (hboard.checkpoint_results ▸ hpass)
      have hstate : (cloud (Controller.setItem item.item_id runtime
          (Controller.note (.processed item actor_role) c'))).state.keys =
            (cloud c).state.keys := (congrArg (fun t => t.keys) hsame.state).trans hran.keys
      unfold MockCloudState.key at hrevoked ⊢
      rwa [hstate]
    · exact ⟨_, hsame.journal.trans (SimulatedCloud.logged_journal step.actionId hran.journal)⟩

/-! ## Operations -/

/-- A passed DP3 is recorded with the key revoked. -/
def Verified : Controller.Recording (CloudWorld O) := fun checkpoint_id result c =>
  checkpoint_id = "DP3" → result = .pass → c.world.1.cloud.state.key.active = false

theorem runAccounted_move {c c' : CloudRun O}
    (hmove : (controller env).Move (Raising.Same Prod.fst) Verified c c')
    (h : RunAccounted env c) : RunAccounted env c' ∧ Grown c c' := by
  cases hmove with
  | outer run world =>
      have hcloud : (cloud c') = cloud c := congrArg CloudStage.cloud world
      refine ⟨h.frame (hcloud ▸ SimulatedCloud.SameAccount.refl _) (fun id hopen => ?_)
        run.checkpoint_results, Grown.of_journal (congrArg SimulatedCloud.journal hcloud)⟩
      exact run.items ▸ hopen
  | turned turn => exact ⟨h.frame (SimulatedCloud.SameAccount.refl _) (fun _ => id) rfl, [],
      (List.append_nil _).symm⟩
  | stopped playing => exact ⟨h.frame (SimulatedCloud.SameAccount.refl _) (fun _ => id) rfl, [],
      (List.append_nil _).symm⟩
  | ticked t => exact ⟨h.frame (SimulatedCloud.SameAccount.refl _) (fun _ => id) rfl, [],
      (List.append_nil _).symm⟩
  | completed known last delivered =>
      exact ⟨h.frame (SimulatedCloud.SameAccount.refl _) (fun _ => id) rfl, [],
        (List.append_nil _).symm⟩
  | readied known pending ready =>
      exact ⟨h.frame (SimulatedCloud.SameAccount.refl _)
        (open_setItem fun _ => Or.inl pending) rfl, [], (List.append_nil _).symm⟩
  | skipped known isOpen skipped =>
      exact ⟨h.frame (SimulatedCloud.SameAccount.refl _) (open_setItem fun _ => isOpen) rfl, [],
        (List.append_nil _).symm⟩
  | delivered known isOpen executed =>
      exact h.executed isOpen executed (by simp [ItemStatus.Open])
  | failed known isOpen executed failed =>
      exact h.executed isOpen executed (by simp [failed, ItemStatus.Open])
  | @recorded checkpoint_id result live isOpen allowed =>
      refine ⟨⟨h.accounted, fun hopen => h.stage_open (open_setItem (fun _ => isOpen) _ hopen),
        fun hopen => h.expand_open (open_setItem (fun _ => isOpen) _ hopen), fun hpass => ?_⟩, [],
        (List.append_nil _).symm⟩
      have hupdate : Function.update c.checkpoint_results checkpoint_id (some result) "DP3" =
          some .pass := hpass
      by_cases hid : "DP3" = checkpoint_id
      · subst hid
        rw [Function.update_self] at hupdate
        exact allowed rfl (Option.some.inj hupdate)
      · rw [Function.update_of_ne hid] at hupdate
        exact h.contained hupdate

theorem runAccounted_moves {c c' : CloudRun O}
    (hmoves : (controller env).Moves (Raising.Same Prod.fst) Verified c c')
    (h : RunAccounted env c) : RunAccounted env c' ∧ Grown c c' := by
  refine hmoves.invariant (I := fun t => RunAccounted env t ∧ Grown c t) ?_ ⟨h, Std.Refl.refl c⟩
  rintro t t' hmove ⟨ht, hgrown⟩
  obtain ⟨ht', hgrown'⟩ := runAccounted_move hmove ht
  exact ⟨ht', hgrown.trans hgrown'⟩

/-- What changes neither the stage's account nor the controller's board keeps both. -/
theorem runAccounted_world {c : CloudRun O} (h : RunAccounted env c) {w : CloudWorld O}
    (hw : CloudStage.SameStage c.world w) :
    RunAccounted env { c with world := w } ∧ Grown c { c with world := w } :=
  ⟨h.frame hw (fun _ => id) rfl, Grown.of_journal hw.journal⟩

/-- A participant's action keeps the account. -/
theorem runAccounted_contained {c : CloudRun O} (h : RunAccounted env c) {w : CloudWorld O}
    (hw : SimulatedCloud.Contained env.sha256 c.world.1.cloud w.1.cloud) :
    RunAccounted env { c with world := w } ∧ Grown c { c with world := w } := by
  refine ⟨⟨hw.accounted h.accounted, fun hopen => ?_, fun hopen => ?_, fun hpass => ?_⟩, hw.journal⟩
  · exact hw.access_staged.trans (h.stage_open hopen)
  · exact hw.policy_attempted.trans (h.expand_open hopen)
  · exact hw.revoked (h.contained hpass)

/-- The run keeps its account and its journal only grows. -/
def KeepsAccount (env : CloudSurroundings O) (c c' : CloudRun O) : Prop :=
  RunAccounted env c → RunAccounted env c' ∧ Grown c c'

instance : Std.Refl (KeepsAccount env) := ⟨fun c h => ⟨h, Std.Refl.refl c⟩⟩

instance : IsTrans (CloudRun O) (KeepsAccount env) := ⟨fun _ _ _ h h' hc => by
  obtain ⟨hb, hgrown⟩ := h hc
  obtain ⟨hd, hgrown'⟩ := h' hb
  exact ⟨hd, hgrown.trans hgrown'⟩⟩

variable (env)

theorem keepsAccount_call {op : Controller.Operation}
    (hop : Operation.WithinRun (O := O) (.control op)) :
    ((controller env).call op).Keeps (KeepsAccount env) := by
  intro c h
  have hreset : ∀ new_run_id, op ≠ .reset new_run_id := by
    rintro new_run_id rfl
    exact hop
  refine runAccounted_moves ((controller env).moves_call (env.collaborates _) hreset ?_) h
  rintro checkpoint_id passed evidence_ids reason checks rfl hid
  exact absurd hid hop

theorem keepsAccount_submitAction (actor target : JsonObject) (action_id idempotency_key : String)
    (parameters : Option JsonObject) (dry_run : Bool) :
    (submitAction env actor target action_id idempotency_key parameters dry_run).Keeps
      (KeepsAccount env) := by
  intro c h
  unfold submitAction
  rw [Raising.require_bind_apply]
  split_ifs with hallowed
  · rw [Raising.gets_bind_apply]
    dsimp only [id]
    cases hrequest : onWorld (CloudStage.makeRequest env (participantCall env c.run_id actor target
      action_id idempotency_key parameters dry_run)) c with
    | mk r c₁ =>
        have hc₁ : c₁ = { c with world := (c.world.1, c₁.world.2) } := by
          have hmade := congrArg Prod.snd hrequest
          subst hmade
          rfl
        cases r with
        | error e =>
            rw [Raising.bind_of_error hrequest, hc₁]
            exact runAccounted_world h (CloudStage.sameStage_of_cloud rfl)
        | ok request =>
            rw [Raising.bind_of_ok hrequest]
            have hname : JsonObject.text (Adapter.redacted request) "action_id" = action_id := by
              have hmade : makeActionRequest env.formats env.sources.clock env.uuid4
                  (participantCall env c.run_id actor target action_id idempotency_key parameters
                    dry_run) c.world.2 = (.ok request, c₁.world.2) :=
                congrArg (fun r => (r.1, r.2.world.2)) hrequest
              obtain ⟨request_id, timestamp, rfl⟩ := makeActionRequest_eq_ok hmade
              exact ActionCall.redacted_action_id _ _ _
            have hcontained := CloudStage.contained_actions env c.world.1.run_id c.view
              (hname ▸ hallowed.1) c₁.world
            have hrest : ∀ m : Py (CloudRun O) ActionResult, m.Keeps (KeepsAccount env) →
                KeepsAccount env c (m c₁).2 := by
              intro m hm hc
              rw [hc₁]
              obtain ⟨h₁, hgrown⟩ :=
                runAccounted_world hc (w := (c.world.1, c₁.world.2))
                  (CloudStage.sameStage_of_cloud rfl)
              obtain ⟨h₂, hgrown'⟩ := hm _ h₁
              exact ⟨h₂, hgrown.trans hgrown'⟩
            refine hrest _ ?_ h
            refine Raising.Keeps.bind (fun t ht => ?_) fun result => ?_
            · exact runAccounted_contained ht (CloudStage.contained_actions env c.world.1.run_id
                c.view (hname ▸ hallowed.1) t.world)
            · refine Raising.Keeps.bind (Raising.Keeps.step fun t ht => ?_) fun advanced =>
                Raising.Keeps.bind (Raising.Keeps.ofExcept advanced) fun _ => Raising.Keeps.pure _
              exact runAccounted_world ht (CloudStage.sameStage_of_cloud rfl)
  · exact ⟨h, Std.Refl.refl c⟩

theorem keepsAccount_submitAssessment (principal_id : String) (confirmed_count : Json)
    (conclusion : String) (evidence_ids : List String) :
    (submitAssessment principal_id confirmed_count conclusion evidence_ids).Keeps
      (KeepsAccount env) := by
  intro c h
  refine runAccounted_world h (CloudStage.sameStage_of_cloud ?_)
  have hkeeps : (CloudStage.submitAssessment c.view principal_id confirmed_count conclusion
      evidence_ids).Keeps (Raising.Same (CloudStage.cloud (O := O))) := by
    refine Raising.Keeps.bind (Raising.Keeps.require _ _) fun _ => ?_
    refine Raising.Keeps.bind (Raising.Keeps.require _ _) fun _ => ?_
    refine Raising.Keeps.bind (Raising.Keeps.require _ _) fun _ => ?_
    refine Raising.Keeps.bind (Raising.Keeps.ofExcept _) fun _ => ?_
    refine Raising.Keeps.bind (Raising.Keeps.require _ _) fun _ => ?_
    exact Raising.Keeps.modify fun _ => rfl
  exact hkeeps c.world.1

theorem keepsAccount_stopAdapters (operator : JsonObject) (reason : String) :
    (stopAdapters env operator reason).Keeps (KeepsAccount env) := by
  refine Raising.Keeps.bind (Raising.Keeps.gets _) fun c => ?_
  refine Raising.Keeps.bind (fun t ht => ?_) fun _ =>
    Raising.Keeps.bind (fun t ht => ?_) fun _ => Raising.Keeps.pure _
  · exact runAccounted_world ht (CloudStage.sameStage_of_cloud
      ((CloudStage.actions env c.world.1.run_id c.view).activateFailSafe_simulation _ _ _ _))
  · exact runAccounted_world ht (CloudStage.sameStage_of_cloud
      ((CloudStage.automation env c.world.1.run_id c.view).activateFailSafe_simulation _ _ _ _))

theorem keepsAccount_statusOf (item_id : String) :
    (statusOf env item_id).Keeps (KeepsAccount env) :=
  Raising.Keeps.bind (Raising.Keeps.require _ _) fun _ => Raising.Keeps.gets _

/-- A passed evaluation found the key revoked. -/
theorem revoked_of_passed {stage : CloudStage O} (h : stage.evaluate.passed = true) :
    stage.cloud.state.key.active = false := by
  have hall := List.all_eq_true.mp h
  simpa using hall ("key_revoked", stage.cloud.state.key.active == false) (by
    simp [CloudStage.checks])

/-- DP3 is recorded as passed only with the key revoked. -/
theorem keepsAccount_resolve : (resolve env).Keeps (KeepsAccount env) := by
  refine Raising.Keeps.bind (Raising.Keeps.require _ _) fun _ => ?_
  refine Raising.Keeps.bind (Raising.Keeps.require _ _) fun _ => ?_
  refine Raising.Keeps.bind (Raising.Keeps.require _ _) fun _ => ?_
  refine Raising.Keeps.bind (keepsAccount_statusOf env _) fun verify => ?_
  have hstatus : (branchStatus env verify).Keeps (KeepsAccount env) := by
    unfold branchStatus
    split
    · exact keepsAccount_statusOf env _
    · exact Raising.Keeps.pure _
  refine Raising.Keeps.bind hstatus fun status => ?_
  refine Raising.Keeps.bind (Raising.Keeps.require _ _) fun _ => ?_
  intro c
  rw [Raising.gets_bind_apply]
  have hresolve : KeepsAccount env c ((controller env).resolveCheckpoint "DP3"
      c.world.1.evaluate.passed c.world.1.evaluate.evidence_ids c.world.1.evaluate.reason
      (some (.obj (c.world.1.evaluate.checks.map fun check => (check.1, .bool check.2)))) c).2 := by
    intro h
    refine runAccounted_moves ((controller env).moves_resolveCheckpoint (env.collaborates _) _ _ _ _
      _ c fun _ hpass => revoked_of_passed ?_) h
    cases hp : c.world.1.evaluate.passed with
    | true => rfl
    | false =>
        rw [hp] at hpass
        cases hpass
  rw [Raising.bind_pure_state]
  exact hresolve

/-- Every operation within the run keeps the account. -/
theorem keepsAccount_perform {op : Operation O} (hop : op.WithinRun) (c : CloudRun O) :
    KeepsAccount env c (perform env op c) := by
  cases op with
  | control op => exact keepsAccount_call env hop c
  | submit_action actor target action_id idempotency_key parameters dry_run =>
      exact keepsAccount_submitAction env actor target action_id idempotency_key parameters
        dry_run c
  | submit_assessment principal_id confirmed_count conclusion evidence_ids =>
      exact keepsAccount_submitAssessment env principal_id confirmed_count conclusion evidence_ids c
  | resolve => exact keepsAccount_resolve env c
  | stop_adapters operator reason => exact keepsAccount_stopAdapters env operator reason c
  | elsewhere effect => exact fun h => runAccounted_world h (CloudStage.sameStage_of_cloud rfl)

theorem runAccounted_init (run_id : String) (w : O) : RunAccounted env (init env run_id w) where
  accounted := {
    level := ⟨0, Nat.zero_le 25, exposes_baseline env.sha256, fun _ => rfl, fun _ => Nat.zero_le 1⟩
    history := rfl
    entries := nofun }
  stage_open := fun _ => rfl
  expand_open := fun _ => rfl
  contained := nofun

/-! ## Exposure over runs -/

/-- An operation within the run. -/
abbrev RunOperation (O : Type) := { op : Operation O // op.WithinRun }

/-- The state after operations of one run. -/
def after (ops : List (RunOperation O)) (c : CloudRun O) : CloudRun O :=
  runAll (fun op c => perform env op.1 c) ops c

theorem keepsAccount_after (ops : List (RunOperation O)) (c : CloudRun O) :
    KeepsAccount env c (after env ops c) := by
  induction ops generalizing c with
  | nil => exact Std.Refl.refl c
  | cons op ops ih =>
      exact IsTrans.trans c (perform env op.1 c) _ (keepsAccount_perform env op.2 c) (ih _)

/-- The records of the bucket that were accessed. -/
def accessed (c : CloudRun O) : List String := (cloud c).state.exposed.accessed_record_ids

/-- The confirmed count of the bucket. -/
def confirmed (c : CloudRun O) : Nat := (cloud c).state.exposed.confirmed_count

/-- Nothing is taken back: the accessed records are extended and the count does not shrink. -/
def Extends (s t : MockCloudState) : Prop :=
  s.exposed.accessed_record_ids <+: t.exposed.accessed_record_ids ∧
    s.exposed.confirmed_count ≤ t.exposed.confirmed_count

instance : Std.Refl Extends := ⟨fun _ => ⟨List.prefix_refl _, le_refl _⟩⟩

instance : IsTrans MockCloudState Extends :=
  ⟨fun _ _ _ h h' => ⟨h.1.trans h'.1, h.2.trans h'.2⟩⟩

/-- With the key revoked, it stays revoked and the count stays. -/
def Frozen (s t : MockCloudState) : Prop :=
  s.key.active = false →
    t.key.active = false ∧ t.exposed.confirmed_count = s.exposed.confirmed_count

instance : Std.Refl Frozen := ⟨fun _ h => ⟨h, rfl⟩⟩

instance : IsTrans MockCloudState Frozen := ⟨fun _ _ _ h h' hrevoked => by
  obtain ⟨hb, hcount⟩ := h hrevoked
  obtain ⟨hc, hcount'⟩ := h' hb
  exact ⟨hc, hcount'.trans hcount⟩⟩

/-- The exposure of a state of the run, and the bodies that led to it. -/
structure ExposureSound (c : CloudRun O) : Prop where
  counted : confirmed c = (accessed c).length
  distinct : (accessed c).Nodup
  records : ∀ id ∈ accessed c, id ∈ baselineObjects.map Prod.fst
  history : Chained CloudEntry.before CloudEntry.after (baseline env.sha256) (cloud c).journal
    (cloud c).state
  entries : ∀ e ∈ (cloud c).journal, e.Sound

theorem RunAccounted.exposureSound {c : CloudRun O} (h : RunAccounted env c) :
    ExposureSound env c := by
  obtain ⟨n, hn⟩ := h.accounted.level
  obtain ⟨hids, hcount⟩ := hn.exposes.exposed
  have hids' : accessed c = sortedRecords.take n := hids
  refine ⟨?_, ?_, ?_, h.accounted.history, h.accounted.entries⟩
  · rw [hids', List.length_take, sortedRecords_length, min_eq_left hn.bounded]
    exact hcount
  · rw [hids']
    exact sortedRecords_nodup.sublist (List.take_sublist n _)
  · intro id hid
    rw [hids'] at hid
    exact mem_sortedRecords.mp (List.mem_of_mem_take hid)

/-- In every state of a run the count is the number of the accessed records, which are distinct
records of the fixture; whatever comes later, nothing is taken back, and after DP3 was passed
nothing is added. The journal of the cloud accounts for all of it: its entries lead without a gap
from the baseline to the state, the count becomes 25 only in an entry of the bulk attempt that found
the principal enabled, the key active and bulk access allowed, and no entry is a refusal for a
containment mismatch. -/
theorem exposure_sound (run_id : String) (w : O) (earlier later : List (RunOperation O)) :
    let c := after env earlier (init env run_id w)
    let c' := after env later c
    ExposureSound env c ∧ Grown c c' ∧ Extends (cloud c).state (cloud c').state ∧
      (c.checkpoint_results "DP3" = some .pass → confirmed c' = confirmed c) := by
  intro c c'
  obtain ⟨hc, -⟩ := keepsAccount_after env earlier (init env run_id w)
    (runAccounted_init env run_id w)
  obtain ⟨hc', es, hes⟩ := keepsAccount_after env later c hc
  have hchain := hc'.accounted.history
  rw [hes] at hchain
  obtain ⟨s, hfirst, hrest⟩ := chained_append.mp hchain
  have hs : s = (cloud c).state := hfirst.unique hc.accounted.history
  subst hs
  have hentries : ∀ e ∈ es, e.Sound := fun e he =>
    hc'.accounted.entries e (hes ▸ List.mem_append_right _ he)
  refine ⟨hc.exposureSound, ⟨es, hes⟩, ?_, fun hpass => ?_⟩
  · exact hrest.related fun e he => ⟨(hentries e he).extended, (hentries e he).counted⟩
  · have hfrozen : Frozen (cloud c).state (cloud c').state :=
      hrest.related fun e he => (hentries e he).contained
    exact (hfrozen (hc.contained hpass)).2

end CloudRun

end NetStrike.Orchestrator
