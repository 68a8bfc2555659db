import NetStrike.Dashboard.StoreArchives
import NetStrike.Orchestrator.AarForgery

/-!
# Pages of archives

`review_archives` answers one page. A reader that goes on with `next_sequence` while `has_more` is
set reads every accepted archive of the exercise once, in the order of acceptance
(`pages_complete`).
-/

set_option autoImplicit false

namespace NetStrike.Dashboard

open NetStrike.Foundation NetStrike.Foundation.Checked NetStrike.Shared NetStrike.Orchestrator
open NetStrike.Orchestrator.Aar

namespace Store

/-! ## Lists of numbered items -/

section Numbered

variable {α β γ : Type}

theorem mapM_map_eq {f : β → Except Exn γ} {g : α → Except Exn γ} {r : α → β} {as : List α}
    (h : ∀ a ∈ as, f (r a) = g a) : (as.map r).mapM f = as.mapM g := by
  induction as with
  | nil => rfl
  | cons a as ih =>
      rw [List.map_cons, List.mapM_cons, List.mapM_cons, h a List.mem_cons_self,
        ih fun b hb => h b (List.mem_cons_of_mem a hb)]

/-- In increasing numbers. -/
def Ascending (items : List (α × Nat)) : Prop := items.Pairwise fun a b => a.2 < b.2

theorem ascending_zipIdx (items : List α) (n : Nat) : Ascending (items.zipIdx n) := by
  have hnumbers : ((items.zipIdx n).map Prod.snd).Pairwise (· < ·) := by
    rw [List.zipIdx_map_snd]
    exact List.pairwise_lt_range'
  exact List.pairwise_map.mp hnumbers

/-- What comes after the last item of a page is what the page has left. -/
theorem filter_after_take {items : List (α × Nat)} (h : Ascending items) {k : Nat} {last : α × Nat}
    (hlast : (items.take k).getLast? = some last) :
    items.filter (fun a => last.2 < a.2) = items.drop k := by
  have hsplit : Ascending (items.take k ++ items.drop k) := by
    rw [List.take_append_drop]
    exact h
  obtain ⟨htake, -, hcross⟩ := List.pairwise_append.mp hsplit
  have hmem : last ∈ items.take k := List.mem_of_getLast? hlast
  -- Nothing of the page comes after its last item.
  have hbefore : (items.take k).filter (fun a => last.2 < a.2) = [] := by
    apply List.filter_eq_nil_iff.mpr
    intro a ha hlt
    obtain ⟨front, hfront⟩ := List.getLast?_eq_some_iff.mp hlast
    rw [hfront] at ha htake
    have hle : a.2 ≤ last.2 := by
      rcases List.mem_append.mp ha with ha | ha
      · exact ((List.pairwise_append.mp htake).2.2 a ha last (List.mem_singleton_self last)).le
      · exact (List.mem_singleton.mp ha ▸ Nat.le_refl _)
    exact Nat.not_lt.mpr hle (of_decide_eq_true hlt)
  have hafter : (items.drop k).filter (fun a => last.2 < a.2) = items.drop k :=
    List.filter_eq_self.mpr fun a ha => decide_eq_true (hcross last hmem a ha)
  calc items.filter (fun a => last.2 < a.2)
      = (items.take k ++ items.drop k).filter (fun a => last.2 < a.2) := by
        rw [List.take_append_drop]
    _ = items.drop k := by rw [List.filter_append, hbefore, hafter, List.nil_append]

end Numbered

end Store

namespace Archive.Env

open Store

variable {env : Archive.Env} {t : Tables} {c : Contents}

/-- An environment in which no text is a date. -/
def sampleEnv : Archive.Env := { Aar.sampleEnv with fromisoformat := fun _ => none }

/-! ## One page -/

/-- An item of a page: the metadata of an accepted archive and its number, once validated. -/
def entry (env : Archive.Env) (a : (Metadata × Json × Json) × Nat) : Except Exn (Json × Nat) := do
  let s ← env.snapshot a
  return (s.metadata, s.archive_sequence)

/-- The accepted archives of an exercise after a number. -/
def archivesAfter (exercise_id : String) (after : Int) (c : Contents) :
    List ((Metadata × Json × Json) × Nat) :=
  (c.archives.zipIdx 1).filter fun a => a.1.1.exercise_id = exercise_id ∧ after < (a.2 : Int)

theorem ascending_archivesAfter (exercise_id : String) (after : Int) (c : Contents) :
    Ascending (archivesAfter exercise_id after c) :=
  (ascending_zipIdx c.archives 1).filter _

theorem Archives.pageItem_eq (h : env.Archives t c) (hholds : env.Holds t c)
    {a : (Metadata × Json × Json) × Nat} (ha : a ∈ c.archives.zipIdx 1) :
    env.pageItem a.1.1.exercise_id t (env.archiveRowOf a) = env.entry a := by
  have harchived := h.archived a.1 (List.fst_mem_of_mem_zipIdx ha)
  have hrow : env.archiveRowOf a ∈ t.review_archives := h.rows ▸ List.mem_map_of_mem ha
  have hfind : t.review_archives.find? (fun row => row.exercise_id = a.1.1.exercise_id ∧
      row.archive_id = a.1.1.archive_id) = some (env.archiveRowOf a) :=
    h.ids.find?_eq hrow (decide_eq_true ⟨rfl, rfl⟩) fun r hr => (of_decide_eq_true hr).2
  have hreview : env.reviewArchive a.1.1.exercise_id a.1.1.archive_id t =
      (do return some (← env.snapshot a)) := by
    rw [reviewArchive, bind_of_eq_ok harchived.identified, snapshotOf, hfind]
    show (env.reviewSnapshot t (env.archiveRowOf (a.1, a.2)) >>= _) = _
    rw [harchived.reviewSnapshot_eq hholds a.2]
  show (env.reviewArchive a.1.1.exercise_id a.1.1.archive_id t >>= _) = _
  rw [hreview, entry]
  cases env.snapshot a with
  | error e => rfl
  | ok s => rfl

/-- The page after a number. -/
def pageAfter (env : Archive.Env) (exercise_id : String) (limit : Nat) (after : Int)
    (c : Contents) : Except Exn ArchivePage := do
  let rest := archivesAfter exercise_id after c
  let page ← (rest.take limit).mapM env.entry
  return {
    archives := page
    has_more := decide (limit < rest.length)
    next_sequence := (page.getLast?.map fun item => (item.2 : Int)).getD after }

theorem Archives.reviewArchives_eq (h : env.Archives t c) (hholds : env.Holds t c)
    (exercise_id : String) {after : Int} {limit : Nat}
    (hafter : 0 ≤ after ∧ after ≤ 9223372036854775807) (hlimit : 1 ≤ limit ∧ limit ≤ 100) :
    env.reviewArchives exercise_id (.int after) (.int limit) t =
      env.pageAfter exercise_id limit after c := by
  have hfound : ((t.review_archives.filter fun row =>
      row.exercise_id = exercise_id ∧ after < (row.archive_sequence : Int)).insertionSort
        fun a b => a.archive_sequence ≤ b.archive_sequence) =
      (archivesAfter exercise_id after c).map env.archiveRowOf := by
    rw [h.rows, List.filter_map]
    refine List.Pairwise.insertionSort_eq (List.pairwise_map.mpr ?_)
    exact (ascending_archivesAfter exercise_id after c).imp fun hlt => Nat.le_of_lt hlt
  have htake : (((archivesAfter exercise_id after c).map env.archiveRowOf).take (limit + 1)).take
      limit = ((archivesAfter exercise_id after c).take limit).map env.archiveRowOf := by
    rw [List.take_take, Nat.min_eq_left (Nat.le_succ limit), List.map_take]
  -- The query asks for one row more than the page shows.
  have hmore : decide (limit < (((archivesAfter exercise_id after c).map env.archiveRowOf).take
      (limit + 1)).length) = decide (limit < (archivesAfter exercise_id after c).length) := by
    rw [List.length_take, List.length_map]
    apply decide_eq_decide.mpr
    omega
  have hitems : (((archivesAfter exercise_id after c).take limit).map env.archiveRowOf).mapM
      (env.pageItem exercise_id t) =
        ((archivesAfter exercise_id after c).take limit).mapM env.entry := by
    apply mapM_map_eq
    intro a ha
    obtain ⟨hmem, hof⟩ := List.mem_filter.mp (List.mem_of_mem_take ha)
    obtain ⟨hexercise, -⟩ := of_decide_eq_true hof
    exact hexercise ▸ h.pageItem_eq hholds hmem
  have hfirst : pageBound (.int after) 0 none = .ok after := by
    unfold pageBound
    exact if_pos ⟨hafter.1, fun _ hnone => by cases hnone⟩
  have hsecond : pageBound (.int limit) 1 (some 100) = .ok (limit : Int) := by
    unfold pageBound
    refine if_pos ⟨by omega, fun bound hbound => ?_⟩
    obtain rfl := Option.some.inj hbound
    omega
  have hcolumn : integerColumn (some (.int after)) = .ok (after : Rat) := by
    unfold integerColumn
    exact if_pos ⟨by omega, hafter.2⟩
  rw [reviewArchives, bind_of_eq_ok hfirst, bind_of_eq_ok hsecond, bind_of_eq_ok hcolumn, hfound,
    pageAfter]
  simp only [Int.toNat_natCast, htake, hmore, hitems]

/-! ## All pages -/

/-- A reader that goes on while there is more. -/
def walk (env : Archive.Env) (exercise_id : String) (limit : Json) (t : Tables) :
    Nat → Int → Except Exn (List (Json × Nat))
  | 0, _ => .ok []
  | fuel + 1, after => do
      let page ← env.reviewArchives exercise_id (.int after) limit t
      if page.has_more then
        let rest ← walk env exercise_id limit t fuel page.next_sequence
        return page.archives ++ rest
      else return page.archives

theorem entry_number {a : (Metadata × Json × Json) × Nat} {item : Json × Nat}
    (h : env.entry a = .ok item) : item.2 = a.2 := by
  obtain ⟨s, hs, h⟩ := bind_eq_ok h
  obtain ⟨report, -, hs⟩ := bind_eq_ok hs
  obtain rfl := Except.ok.inj hs
  obtain rfl := Except.ok.inj h
  rfl

theorem entries_numbers {items : List ((Metadata × Json × Json) × Nat)} {page : List (Json × Nat)}
    (h : items.mapM env.entry = .ok page) : page.map Prod.snd = items.map Prod.snd := by
  induction items generalizing page with
  | nil =>
      obtain rfl := Except.ok.inj h
      rfl
  | cons a items ih =>
      rw [List.mapM_cons] at h
      obtain ⟨item, hitem, h⟩ := bind_eq_ok h
      obtain ⟨rest, hrest, h⟩ := bind_eq_ok h
      obtain rfl := Except.ok.inj h
      rw [List.map_cons, List.map_cons, entry_number hitem, ih hrest]

/-- What is left after a later number. -/
theorem filter_archivesAfter (exercise_id : String) {after : Int} {n : Nat} (h : after ≤ n)
    (c : Contents) : (archivesAfter exercise_id after c).filter (fun a => n < a.2) =
      archivesAfter exercise_id n c := by
  rw [archivesAfter, List.filter_filter, archivesAfter]
  refine List.filter_congr fun a _ => ?_
  rw [← Bool.decide_and]
  apply decide_eq_decide.mpr
  constructor
  · rintro ⟨hlater, hexercise, -⟩
    exact ⟨hexercise, by omega⟩
  · rintro ⟨hexercise, hlater⟩
    exact ⟨by omega, hexercise, by omega⟩

/-- The reader reads what is left: by induction on the requests that it may still make. -/
theorem Archives.walk_eq (h : env.Archives t c) (hholds : env.Holds t c) (exercise_id : String)
    {limit : Nat} (hlimit : 1 ≤ limit ∧ limit ≤ 100)
    (hcount : c.archives.length ≤ 9223372036854775807) {fuel : Nat} {after : Int}
    (hafter : 0 ≤ after ∧ after ≤ 9223372036854775807)
    (hfuel : (archivesAfter exercise_id after c).length < fuel) :
    env.walk exercise_id (.int limit) t fuel after =
      (archivesAfter exercise_id after c).mapM env.entry := by
  induction fuel generalizing after with
  | zero => exact absurd hfuel (Nat.not_lt_zero _)
  | succ fuel ih =>
      rw [walk, h.reviewArchives_eq hholds exercise_id hafter hlimit, pageAfter]
      have hsplit : (archivesAfter exercise_id after c).mapM env.entry = do
          let page ← ((archivesAfter exercise_id after c).take limit).mapM env.entry
          let rest ← ((archivesAfter exercise_id after c).drop limit).mapM env.entry
          return page ++ rest := by
        rw [← List.mapM_append, List.take_append_drop]
      cases hpage : ((archivesAfter exercise_id after c).take limit).mapM env.entry with
      | error e =>
          -- The first archive that is not valid is on this page.
          rw [hsplit, hpage]
          rfl
      | ok page =>
          by_cases hmore : limit < (archivesAfter exercise_id after c).length
          · -- The page ends with an item; the next one starts after its number.
            obtain ⟨last, hlast⟩ :
                ∃ last, ((archivesAfter exercise_id after c).take limit).getLast? = some last := by
              apply Option.ne_none_iff_exists'.mp
              intro hnone
              have hempty := congrArg List.length (List.getLast?_eq_none_iff.mp hnone)
              rw [List.length_take, List.length_nil] at hempty
              omega
            have hnext : (page.getLast?.map fun item => (item.2 : Int)) = some (last.2 : Int) := by
              have hnumber : (page.map Prod.snd).getLast? = some last.2 := by
                rw [entries_numbers hpage, List.getLast?_map, hlast]
                rfl
              rw [List.getLast?_map] at hnumber
              obtain ⟨item, hitem, hsame⟩ := Option.map_eq_some_iff.mp hnumber
              rw [hitem, ← hsame]
              rfl
            obtain ⟨hnumbered, hof⟩ :=
              List.mem_filter.mp (List.mem_of_mem_take (List.mem_of_getLast? hlast))
            obtain ⟨-, hlater⟩ := of_decide_eq_true hof
            have hbound : last.2 < 1 + c.archives.length := by
              have hnumber : last.2 ∈ (c.archives.zipIdx 1).map Prod.snd :=
                List.mem_map_of_mem hnumbered
              rw [List.zipIdx_map_snd] at hnumber
              exact (List.mem_range'_1.mp hnumber).2
            have hrest : (archivesAfter exercise_id after c).drop limit =
                archivesAfter exercise_id last.2 c := by
              rw [← filter_archivesAfter exercise_id (Int.le_of_lt hlater),
                filter_after_take (ascending_archivesAfter exercise_id after c) hlast]
            have hfewer : (archivesAfter exercise_id last.2 c).length < fuel := by
              rw [← hrest, List.length_drop]
              omega
            have hwalk := ih ⟨Int.natCast_nonneg last.2, by omega⟩ hfewer
            rw [hsplit, hpage, hrest, ← hwalk]
            simp only [bind, Except.bind, pure, Except.pure, hmore, hnext, decide_true, if_true,
              Option.getD_some]
          · -- The last page shows all that is left.
            have hall : (archivesAfter exercise_id after c).take limit =
                archivesAfter exercise_id after c := List.take_of_length_le (by omega)
            rw [← hall, hpage, hall]
            simp only [bind, Except.bind, pure, Except.pure, hmore, decide_false]
            rfl

end Archive.Env

end NetStrike.Dashboard
