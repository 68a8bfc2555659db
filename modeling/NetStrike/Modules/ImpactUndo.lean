import NetStrike.Modules.ImpactRestore

/-!
# Undoing the actions of the impact fixture

The actions that return give tokens, those that raise have no effect. Rolling back the tokens, the
last one first, puts back the files, the report and the table of tokens, whatever was done to the
directories before the first of the actions (`actions_undone`).
-/

set_option autoImplicit false

namespace NetStrike.Modules

open NetStrike.Foundation NetStrike.Shared

namespace ImpactFixture

variable {W : Type}

theorem Spared.trans {f g k : ImpactFixture W} (hfg : Spared f g) (hgk : Spared g k) :
    Spared f k := by
  obtain ⟨w, n, hn, rfl⟩ := hfg
  obtain ⟨w', n', hn', rfl⟩ := hgk
  exact ⟨w', n', hn.trans hn', rfl⟩

end ImpactFixture

namespace ImpactEnv

open ImpactFixture

variable {W : Type} (env : ImpactEnv W)

/-- An action with its control. -/
inductive FixtureAction (W : Type) where
  | apply (variant : String) (checkpoint : Py W Unit)
  | restore (checkpoint : Py W Unit)

/-- The action as a computation. -/
def FixtureAction.run : FixtureAction W → Py (ImpactFixture W) String
  | .apply variant checkpoint => env.applyMarkers variant checkpoint
  | .restore checkpoint => env.restoreFixture checkpoint

/-- Perform the actions one after the other; the tokens of those that returned come last first. -/
def performActions : List (FixtureAction W) → ImpactFixture W → List String × ImpactFixture W
  | [], f => ([], f)
  | action :: actions, f =>
      let (outcome, f') := action.run env f
      let (names, f'') := performActions actions f'
      (names ++ outcome.toOption.toList, f'')

/-- Roll back the tokens in the given order. -/
def rollbackAll (checkpoint : Py W Unit) (names : List String) (f : ImpactFixture W) :
    ImpactFixture W :=
  names.foldl (fun f name => (rollback name checkpoint f).2) f

/-- An action raises and has no effect, or it returns a token. -/
theorem run_outcome (action : FixtureAction W) {f f' : ImpactFixture W} {r : Except Exn String}
    (hnumbered : f.Numbered) (h : action.run env f = (r, f')) :
    (∃ e, r = .error e ∧ Spared f f') ∨ ∃ name, r = .ok name ∧ Saved f f' name := by
  cases action with
  | apply variant checkpoint =>
      rcases env.applyMarkers_outcome hnumbered h with hraised | ⟨name, _, _, _, _, _, hok, hsaved, -⟩
      · exact Or.inl hraised
      · exact Or.inr ⟨name, hok, hsaved⟩
  | restore checkpoint =>
      rcases env.restoreFixture_outcome hnumbered h with
        hraised | ⟨name, _, _, _, _, _, hok, hsaved, -⟩
      · exact Or.inl hraised
      · exact Or.inr ⟨name, hok, hsaved⟩

/-- A rollback undoes what an action did. -/
theorem rollback_of_saved {f f' g : ImpactFixture W} {name : String} {checkpoint : Py W Unit}
    (hquiet : ∀ w, (checkpoint w).1 = .ok ()) (hbookkept : f.Bookkept) (hsaved : Saved f f' name)
    (hspared : Spared f' g) : Spared f (rollback name checkpoint g).2 := by
  obtain ⟨snapshot, hshows, hrollbacks⟩ := hsaved.rollbacks
  have hkept : g.Bookkept := hspared.bookkept (hsaved.bookkept hbookkept)
  obtain ⟨w, n, hn, rfl⟩ := hspared
  have hfresh : name ∉ f.rollbacks.map Prod.fst := by
    rw [hsaved.name_eq]
    exact notMem_keys_iff.mpr (hbookkept.numbered _ (Nat.lt_succ_self _))
  have hfound : f'.rollbacks.lookup name = some snapshot := by
    rw [hrollbacks]
    exact lookup_setEntry _ _ _
  generalize hstart : ({ f' with rollback_sequence := n, world := w } : ImpactFixture W) = g at hkept ⊢
  have hcheck : checkpoint g.world = (.ok (), (checkpoint g.world).2) := Prod.ext (hquiet _) rfl
  obtain ⟨outcome, hputs, -⟩ := rollback_of_found hkept.wellSaved hcheck
    (show g.rollbacks.lookup name = some snapshot by rw [← hstart]; exact hfound)
  generalize (checkpoint g.world).2 = w' at hputs
  have hclean : ∀ part, f'.Clean part →
      Clean { g with world := w', rollbacks := popEntry name g.rollbacks } part := by
    intro part h
    refine h.transfer (by rw [← hstart]) fun part => ?_
    rw [← hstart]
    cases part <;> rfl
  generalize (rollback name checkpoint g).2 = t at hputs
  cases hputs with
  | restored live staging hlive hstaging hfiles hstaged hplace hplace' =>
      have hsameLive : live = f.live := directory_eq hshows.live hsaved.live.real
        (hplace.trans (hsaved.live.real.directory .live).symm) hfiles
      have hsameStaging : staging = f.staging := directory_eq hshows.staging hsaved.live.real
        (hplace'.trans (hsaved.live.real.directory .staging).symm) hstaged
      refine ⟨w', n, ?_, ?_⟩
      · have hsequence := hsaved.rollback_sequence
        omega
      · rw [hsameLive, hsameStaging, hshows.last_report, ← hstart]
        dsimp only
        rw [hrollbacks, popEntry_setEntry hfresh, hsaved.run_root, hsaved.backup]
  | refused e hnot => exact absurd (hclean .live hsaved.live) hnot
  | half e live hlive hnot => exact absurd (hclean .staging hsaved.staging) hnot

/-- **Actions are undone in reverse order**: the files, the report and the table of tokens are as they
were before the first of them, at whatever steps some of them were stopped. -/
theorem actions_undone (ops : List (FixtureOp W)) (w : W) (actions : List (FixtureAction W))
    (checkpoint : Py W Unit) (hquiet : ∀ w, (checkpoint w).1 = .ok ()) :
    Spared (env.reached ops w)
      (rollbackAll checkpoint (env.performActions actions (env.reached ops w)).1
        (env.performActions actions (env.reached ops w)).2) := by
  have hbookkept := env.bookkept_reached ops w
  generalize env.reached ops w = f at hbookkept ⊢
  -- The later actions are undone first, so the induction runs from the first action on.
  induction actions generalizing f with
  | nil => exact Spared.refl f
  | cons action actions ih =>
      unfold performActions
      cases hrun : action.run env f with
      | mk outcome f' =>
          rcases env.run_outcome action hbookkept.numbered hrun with
            ⟨e, rfl, hspared⟩ | ⟨name, rfl, hsaved⟩
          · have hrest := ih f' (hspared.bookkept hbookkept)
            dsimp only
            rw [show (Except.error e : Except Exn String).toOption.toList = [] from rfl,
              List.append_nil]
            exact hspared.trans hrest
          · have hrest := ih f' (hsaved.bookkept hbookkept)
            dsimp only
            rw [rollbackAll, List.foldl_append]
            exact rollback_of_saved hquiet hbookkept hsaved hrest

/-- A blocked impact and a recovery are undone. -/
theorem impact_and_recovery_undone :
    Spared (quietEnv.reached [] ()) (rollbackAll (pure ())
      (quietEnv.performActions [.apply "blocked" (pure ()), .restore (pure ())]
        (quietEnv.reached [] ())).1
      (quietEnv.performActions [.apply "blocked" (pure ()), .restore (pure ())]
        (quietEnv.reached [] ())).2) :=
  quietEnv.actions_undone [] () [.apply "blocked" (pure ()), .restore (pure ())] (pure ())
    fun _ => rfl

end ImpactEnv

end NetStrike.Modules
