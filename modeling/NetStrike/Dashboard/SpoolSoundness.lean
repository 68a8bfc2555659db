import NetStrike.Dashboard.SpoolSource

/-!
# What an accepted spool says about the database

`Block` is a manifest with the rows it stands for and `Blocks` a list of them, each after the rows
before. The first loop of `_read` cuts the rows it streams into the blocks of the manifests
(`readPrefix_blocks`). As the row ids increase, a block is the stretch of rows between the cursors
of its manifest (`block_between`), and with the digests of the files the files are the canonical
encodings of these rows.
-/

set_option autoImplicit false

namespace NetStrike.Dashboard.Spool

open NetStrike.Foundation NetStrike.Foundation.Checked NetStrike.Shared

variable (env : Spool)

/-! ## Encodings -/

/-- The canonical line of a row. -/
def line (row : Row) : Bytes :=
  match env.parsed row with
  | .ok event => env.json event
  | .error _ => []

/-- What the digest of the prefix takes in for a row. -/
def recordOf (row : Row) : Bytes :=
  match env.parsed row with
  | .ok event => env.record row.cursor event
  | .error _ => []

/-- The canonical lines of the rows. -/
def lines (rows : List Row) : Bytes := rows.flatMap env.line

/-- The records of the rows. -/
def records (rows : List Row) : Bytes := rows.flatMap env.recordOf

@[simp] theorem lines_nil : env.lines [] = [] := rfl

@[simp] theorem records_nil : env.records [] = [] := rfl

theorem lines_append (as bs : List Row) : env.lines (as ++ bs) = env.lines as ++ env.lines bs :=
  List.flatMap_append

theorem records_append (as bs : List Row) :
    env.records (as ++ bs) = env.records as ++ env.records bs :=
  List.flatMap_append

@[simp] theorem lines_singleton (row : Row) : env.lines [row] = env.line row :=
  List.flatMap_singleton _ _

@[simp] theorem records_singleton (row : Row) : env.records [row] = env.recordOf row :=
  List.flatMap_singleton _ _

variable {env}

/-- An accepted row holds its event. -/
theorem event_eq_ok {row : Row} {sequences next : String → Int} {event : Json}
    (h : env.event row sequences = .ok (event, next)) :
    env.line row = env.json event ∧ env.recordOf row = env.record row.cursor event := by
  unfold Spool.event at h
  split at h
  · next event' hparsed =>
      split at h
      · cases h
        unfold line recordOf
        rw [hparsed]
        exact ⟨rfl, rfl⟩
      · cases h
  · cases h

/-! ## Blocks -/

/-- The rows that a manifest stands for, after the rows `before`. -/
structure Block (env : Spool) (exercise_id : String) (m : Manifest) (before rows : List Row) :
    Prop where
  range : ∀ row ∈ rows, m.first_cursor ≤ row.cursor ∧ row.cursor ≤ m.next.cursor
  digest : env.sha256 (env.lines rows) = m.events_sha256
  count : (rows.length : Int) = m.event_count
  bytes : ((env.lines rows).length : Int) = m.bytes
  next : state exercise_id m.next.cursor (before ++ rows).length
    (env.sha256 (env.records (before ++ rows))) = m.next

/-- Consecutive blocks. -/
def Blocks (env : Spool) (exercise_id : String) :
    List Row → List (Manifest × List Row) → Prop
  | _, [] => True
  | before, b :: bs =>
      Block env exercise_id b.1 before b.2 ∧ Blocks env exercise_id (before ++ b.2) bs

theorem blocks_snoc {exercise_id : String} {b : Manifest × List Row} :
    ∀ {bs : List (Manifest × List Row)} {before : List Row},
      Blocks env exercise_id before bs →
        Block env exercise_id b.1 (before ++ bs.flatMap Prod.snd) b.2 →
          Blocks env exercise_id before (bs ++ [b])
  | [], before, _, hb => by
      rw [List.flatMap_nil, List.append_nil] at hb
      exact ⟨hb, trivial⟩
  | c :: cs, before, h, hb => by
      rw [List.flatMap_cons, ← List.append_assoc] at hb
      exact ⟨h.1, blocks_snoc h.2 hb⟩

/-- The manifests continue each other from `previous`. -/
def Continue : PublicationState → List Manifest → Prop
  | _, [] => True
  | previous, m :: ms =>
      m.previous = previous ∧ previous.cursor < m.first_cursor ∧
        m.first_cursor ≤ m.next.cursor ∧ Continue m.next ms

/-- All rows of blocks that continue `previous` come after it. -/
theorem cursor_lt_of_blocks {exercise_id : String} :
    ∀ {bs : List (Manifest × List Row)} {before : List Row} {previous : PublicationState},
      Blocks env exercise_id before bs → Continue previous (bs.map Prod.fst) →
        ∀ row ∈ bs.flatMap Prod.snd, previous.cursor < row.cursor
  | [], _, _, _, _, row, hrow => by
      cases hrow
  | b :: bs, before, previous, h, hc, row, hrow => by
      obtain ⟨-, hbelow, habove, hrest⟩ := hc
      rw [List.flatMap_cons, List.mem_append] at hrow
      rcases hrow with hrow | hrow
      · exact hbelow.trans_le (h.1.range row hrow).1
      · exact (hbelow.trans_le habove).trans (cursor_lt_of_blocks h.2 hrest row hrow)

/-- A block consists of the rows between the cursors of its manifest, and the rows up to its end are
those that its checkpoint counts. -/
theorem filter_of_blocks {exercise_id : String} {all : List Row} :
    ∀ {bs : List (Manifest × List Row)} {before : List Row} {previous : PublicationState},
      Blocks env exercise_id before bs → Continue previous (bs.map Prod.fst) →
        (∀ row ∈ before, row.cursor ≤ previous.cursor) → all = before ++ bs.flatMap Prod.snd →
          ∀ b ∈ bs,
            b.2 = all.filter (fun row => b.1.previous.cursor < row.cursor ∧
              row.cursor ≤ b.1.next.cursor) ∧
            Block env exercise_id b.1
              (all.filter fun row => row.cursor ≤ b.1.previous.cursor) b.2
  | [], _, _, _, _, _, _, b, hb => by
      cases hb
  | c :: cs, before, previous, h, hc, hbefore, hall, b, hb => by
      obtain ⟨hprevious, hbelow, habove, hrest⟩ := hc
      have hrows : ∀ row ∈ c.2, previous.cursor < row.cursor ∧ row.cursor ≤ c.1.next.cursor :=
        fun row hrow => ⟨hbelow.trans_le (h.1.range row hrow).1, (h.1.range row hrow).2⟩
      have hlater := cursor_lt_of_blocks h.2 hrest
      rw [List.flatMap_cons] at hall
      rcases List.mem_cons.mp hb with rfl | hb
      · -- The rows before end at `previous`, the later ones start after the block.
        have hcut : all.filter (fun row => row.cursor ≤ previous.cursor) = before := by
          rw [hall, List.filter_append, List.filter_append,
            List.filter_eq_self.mpr fun row hrow => decide_eq_true (hbefore row hrow),
            List.filter_eq_nil_iff.mpr fun row hrow => ?_,
            List.filter_eq_nil_iff.mpr fun row hrow => ?_]
          · simp
          · have := hlater row hrow
            simp only [decide_eq_true_eq]
            omega
          · have := (hrows row hrow).1
            simp only [decide_eq_true_eq]
            omega
        constructor
        · rw [hall, List.filter_append, List.filter_append, hprevious,
            List.filter_eq_nil_iff.mpr fun row hrow => ?_,
            List.filter_eq_self.mpr fun row hrow => decide_eq_true (hrows row hrow),
            List.filter_eq_nil_iff.mpr fun row hrow => ?_]
          · simp
          · have := hlater row hrow
            simp only [decide_eq_true_eq]
            omega
          · have := hbefore row hrow
            simp only [decide_eq_true_eq]
            omega
        · rw [hprevious, hcut]
          exact h.1
      · refine filter_of_blocks h.2 hrest ?_ (by rw [hall, List.append_assoc]) b hb
        intro row hrow
        rcases List.mem_append.mp hrow with hrow | hrow
        · have := hbefore row hrow
          omega
        · exact (hrows row hrow).2

/-! ## The published prefix -/

/-- What the first loop of `_read` has found when it has seen the rows `seen`: the blocks of the
manifests it is done with, and the rows of the batch it is in. -/
structure Streamed (env : Spool) (exercise_id : String) (manifests : List Manifest)
    (seen : List Row) (s : PrefixLoop) (closed : List (Manifest × List Row))
    (current : List Row) : Prop where
  split_manifests : manifests = closed.map Prod.fst ++ s.remaining
  split_rows : seen = closed.flatMap Prod.snd ++ current
  blocks : Blocks env exercise_id [] closed
  digest : s.digest = env.records seen
  count : s.count = seen.length
  batch_digest : s.batch_digest = env.lines current
  batch_count : s.batch_count = current.length
  range : ∀ m ms, s.remaining = m :: ms → ∀ row ∈ current,
    m.first_cursor ≤ row.cursor ∧ row.cursor ≤ m.next.cursor
  done : s.remaining = [] → current = []

theorem streamed_start (exercise_id : String) (manifests : List Manifest) :
    Streamed env exercise_id manifests [] (prefixStart manifests) [] [] where
  split_manifests := rfl
  split_rows := rfl
  blocks := trivial
  digest := rfl
  count := rfl
  batch_digest := rfl
  batch_count := rfl
  range := fun _ _ _ _ hrow => absurd hrow List.not_mem_nil
  done := fun _ => rfl

/-- One more row. -/
theorem streamed_step {exercise_id : String} {manifests : List Manifest} {seen current : List Row}
    {s s' : PrefixLoop} {closed : List (Manifest × List Row)} {row : Row}
    (h : Streamed env exercise_id manifests seen s closed current)
    (hstep : env.prefixRow exercise_id s row = .ok s') :
    ∃ closed' current', Streamed env exercise_id manifests (seen ++ [row]) s' closed' current' := by
  unfold prefixRow at hstep
  obtain ⟨⟨event, sequences⟩, hevent, hstep⟩ := bind_eq_ok hstep
  obtain ⟨hline, hrecord⟩ := event_eq_ok hevent
  dsimp only at hstep
  cases hremaining : s.remaining with
  | nil =>
      rw [hremaining] at hstep
      cases hstep
  | cons m remaining =>
      rw [hremaining] at hstep
      dsimp only at hstep
      obtain ⟨_, hrange, hstep⟩ := bind_eq_ok hstep
      have hrow := demand_eq_ok hrange
      have hdigest : s.digest ++ env.record row.cursor event = env.records (seen ++ [row]) := by
        rw [h.digest, env.records_append, env.records_singleton, hrecord]
      have hbatch : s.batch_digest ++ env.json event = env.lines (current ++ [row]) := by
        rw [h.batch_digest, env.lines_append, env.lines_singleton, hline]
      have hcount : s.count + 1 = ((seen ++ [row]).length : Int) := by
        simp [h.count]
      have hbatch_count : s.batch_count + 1 = ((current ++ [row]).length : Int) := by
        simp [h.batch_count]
      have hin : ∀ r ∈ current ++ [row], m.first_cursor ≤ r.cursor ∧ r.cursor ≤ m.next.cursor := by
        intro r hr
        rcases List.mem_append.mp hr with hr | hr
        · exact h.range m remaining hremaining r hr
        · rw [List.mem_singleton.mp hr]
          exact hrow
      split at hstep
      · next hlast =>
          -- The row ends its batch.
          obtain ⟨_, hcloses, hstep⟩ := bind_eq_ok hstep
          obtain ⟨hsha, hn, hbytes, hnext⟩ := demand_eq_ok hcloses
          cases hstep
          dsimp only at hsha hn hbytes hnext
          rw [hbatch] at hsha hbytes
          rw [hbatch_count] at hn
          rw [hcount, hdigest, hlast, h.split_rows] at hnext
          refine ⟨closed ++ [(m, current ++ [row])], [], ?_⟩
          exact
            { split_manifests := by
                rw [h.split_manifests, hremaining, List.map_append, List.append_assoc]
                rfl
              split_rows := by
                rw [h.split_rows, List.flatMap_append, List.flatMap_singleton, List.append_nil,
                  List.append_assoc]
              blocks := by
                refine blocks_snoc h.blocks ?_
                rw [List.nil_append]
                rw [List.append_assoc] at hnext
                exact ⟨hin, hsha, hn, hbytes, hnext⟩
              digest := hdigest
              count := hcount
              batch_digest := rfl
              batch_count := rfl
              range := fun _ _ _ r hr => absurd hr List.not_mem_nil
              done := fun _ => rfl }
      · cases hstep
        refine ⟨closed, current ++ [row], ?_⟩
        exact
          { split_manifests := by rw [h.split_manifests, hremaining]
            split_rows := by rw [h.split_rows, List.append_assoc]
            blocks := h.blocks
            digest := hdigest
            count := hcount
            batch_digest := hbatch
            batch_count := hbatch_count
            range := fun m' ms hm r hr => by
              cases hm
              exact hin r hr
            done := fun hnil => by cases hnil }

/-- The whole loop. -/
theorem streamed_foldlM {exercise_id : String} {manifests : List Manifest} :
    ∀ {rows seen : List Row} {s s' : PrefixLoop} {closed : List (Manifest × List Row)}
      {current : List Row}, Streamed env exercise_id manifests seen s closed current →
        rows.foldlM (env.prefixRow exercise_id) s = .ok s' →
          ∃ closed' current',
            Streamed env exercise_id manifests (seen ++ rows) s' closed' current'
  | [], seen, s, s', closed, current, h, hloop => by
      cases hloop
      refine ⟨closed, current, ?_⟩
      rw [List.append_nil]
      exact h
  | row :: rows, seen, s, s', closed, current, h, hloop => by
      rw [List.foldlM_cons] at hloop
      obtain ⟨t, ht, hloop⟩ := bind_eq_ok hloop
      obtain ⟨closed', current', hnext⟩ := streamed_step h ht
      obtain ⟨closed'', current'', hlast⟩ := streamed_foldlM hnext hloop
      refine ⟨closed'', current'', ?_⟩
      rw [List.append_assoc] at hlast
      exact hlast

/-- The rows of the published prefix are the blocks of the manifests. -/
theorem readPrefix_blocks {source : Source} {published : PublicationState}
    {manifests : List Manifest} {s : PrefixLoop}
    (h : env.readPrefix source published manifests = .ok s) :
    ∃ closed : List (Manifest × List Row), closed.map Prod.fst = manifests ∧
      closed.flatMap Prod.snd = source.upTo published.exercise_id published.cursor ∧
      Blocks env published.exercise_id [] closed ∧
      env.sha256 (env.records (source.upTo published.exercise_id published.cursor)) =
        published.prefix_sha256 ∧
      s.cursor = published.cursor := by
  unfold readPrefix at h
  obtain ⟨t, hloop, h⟩ := bind_eq_ok h
  obtain ⟨_, hremaining, h⟩ := bind_eq_ok h
  obtain ⟨_, hstate, h⟩ := bind_eq_ok h
  cases h
  have hnil := demand_eq_ok hremaining
  have hpublished := demand_eq_ok hstate
  obtain ⟨closed, current, hstreamed⟩ :=
    streamed_foldlM (streamed_start published.exercise_id manifests) hloop
  rw [List.nil_append] at hstreamed
  have hcurrent := hstreamed.done hnil
  refine ⟨closed, ?_, ?_, hstreamed.blocks, ?_, ?_⟩
  · have := hstreamed.split_manifests
    rw [hnil, List.append_nil] at this
    exact this.symm
  · have := hstreamed.split_rows
    rw [hcurrent, List.append_nil] at this
    exact this.symm
  · rw [← hstreamed.digest]
    exact congrArg PublicationState.prefix_sha256 hpublished
  · exact congrArg PublicationState.cursor hpublished

end NetStrike.Dashboard.Spool
