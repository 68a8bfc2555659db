import NetStrike.Dashboard.SpoolExport

/-!
# Verification of a spool

`Faithful` relates an accepted spool to the database: its files are the canonical encodings of the
rows, cut at the recorded cursors, its checkpoints are those of the rows up to their cursors, and
`HEAD` is one of them. A digest stands for one byte string only, `hashed` being the byte strings
whose digests are compared (`faithful_of_inspect`).
-/

set_option autoImplicit false

namespace NetStrike.Dashboard.Spool

open NetStrike.Foundation NetStrike.Foundation.Checked NetStrike.Shared

variable (env : Spool)

/-- The checkpoint of the rows up to a cursor. -/
def stateAt (source : Source) (exercise_id : String) (cursor : Int) : PublicationState :=
  state exercise_id cursor (source.upTo exercise_id cursor).length
    (env.sha256 (env.records (source.upTo exercise_id cursor)))

/-- What an accepted spool says about the published prefix of the database. -/
structure Faithful (env : Spool) (exercise_id : String) (root : Option Node) (source : Source)
    (p : Published) : Prop where
  files : batchContents root = p.batches.map BatchFiles.content
  contents : ∀ f ∈ p.batches, f.content = env.lines
    (source.between exercise_id f.manifest.previous.cursor f.manifest.next.cursor)
  manifests : ∀ f ∈ p.batches, f.manifest =
    env.manifestOf (env.stateAt source exercise_id f.manifest.previous.cursor)
      (env.stateAt source exercise_id f.manifest.next.cursor) f.manifest.first_cursor f.content
  chained : Continue (env.emptyState exercise_id) (p.batches.map BatchFiles.manifest)
  last : p.previous = lastState (env.emptyState exercise_id) p.batches
  current : p.previous = env.stateAt source exercise_id p.previous.cursor
  head : p.initialized = true → ∃ head, env.headOf root exercise_id = some head ∧
    (head = env.emptyState exercise_id ∨ head ∈ p.batches.map fun f => f.manifest.next)

/-- The byte strings whose digests are compared when a spool is checked against the database. -/
def hashed (exercise_id : String) (source : Source) (p : Published) : Set Bytes :=
  {b | (∃ f ∈ p.batches, b = f.content) ∨
    (∃ low high, b = env.lines (source.between exercise_id low high)) ∨
    ∃ high, b = env.records (source.upTo exercise_id high)}

variable {env}

/-! ## Rows between cursors -/

theorem filter_cursor_append {rows : List Row} (h : rows.Pairwise fun a b => a.cursor < b.cursor)
    {a b : Int} (hab : a ≤ b) :
    rows.filter (fun row => row.cursor ≤ a) ++
        rows.filter (fun row => a < row.cursor ∧ row.cursor ≤ b) =
      rows.filter fun row => row.cursor ≤ b := by
  induction rows with
  | nil => rfl
  | cons row rows ih =>
      obtain ⟨hfirst, hrest⟩ := List.pairwise_cons.mp h
      by_cases hrow : row.cursor ≤ a
      · rw [List.filter_cons_of_pos (by simpa using hrow),
          List.filter_cons_of_neg (by simp [hrow]),
          List.filter_cons_of_pos (by simpa using hrow.trans hab), List.cons_append, ih hrest]
      · -- Every later row lies above `a` as well.
        have hnone : (row :: rows).filter (fun row => decide (row.cursor ≤ a)) = [] := by
          refine List.filter_eq_nil_iff.mpr fun r hr => ?_
          simp only [decide_eq_true_eq, not_le]
          rcases List.mem_cons.mp hr with rfl | hr
          · exact not_le.mp hrow
          · exact (not_le.mp hrow).trans (hfirst r hr)
        rw [hnone, List.nil_append]
        refine List.filter_congr fun r hr => ?_
        have hlow : a < r.cursor := by
          rcases List.mem_cons.mp hr with rfl | hr
          · exact not_le.mp hrow
          · exact (not_le.mp hrow).trans (hfirst r hr)
        simp [hlow]

/-- The rows between two cursors, cut out of the rows up to a later one. -/
theorem between_eq (source : Source) (exercise_id : String) {low high last : Int}
    (h : high ≤ last) :
    (source.upTo exercise_id last).filter (fun row => low < row.cursor ∧ row.cursor ≤ high) =
      source.between exercise_id low high := by
  unfold Source.upTo Source.between
  rw [List.filter_filter]
  refine List.filter_congr fun row _ => ?_
  rw [Bool.eq_iff_iff]
  simp only [Bool.and_eq_true, decide_eq_true_eq]
  constructor
  · rintro ⟨⟨hlow, hhigh⟩, hscope, -⟩
    exact ⟨hscope, hlow, hhigh⟩
  · rintro ⟨hscope, hlow, hhigh⟩
    exact ⟨⟨hlow, hhigh⟩, hscope, hhigh.trans h⟩

/-- The rows up to a cursor, cut out of the rows up to a later one. -/
theorem upTo_eq (source : Source) (exercise_id : String) {high last : Int} (h : high ≤ last) :
    (source.upTo exercise_id last).filter (fun row => row.cursor ≤ high) =
      source.upTo exercise_id high := by
  unfold Source.upTo
  rw [List.filter_filter]
  refine List.filter_congr fun row _ => ?_
  rw [Bool.eq_iff_iff]
  simp only [Bool.and_eq_true, decide_eq_true_eq]
  constructor
  · rintro ⟨hhigh, hscope, -⟩
    exact ⟨hscope, hhigh⟩
  · rintro ⟨hscope, hhigh⟩
    exact ⟨hhigh, hscope, hhigh.trans h⟩

theorem upTo_ordered (source : Source) (exercise_id : String) (high : Int) :
    (source.upTo exercise_id high).Pairwise fun a b => a.cursor < b.cursor :=
  source.ordered.filter _

/-! ## Chains -/

/-- The last checkpoint of continuing manifests. -/
def lastNext (previous : PublicationState) (ms : List Manifest) : PublicationState :=
  (ms.getLast?.map Manifest.next).getD previous

theorem lastNext_cons (previous : PublicationState) (m : Manifest) (ms : List Manifest) :
    lastNext previous (m :: ms) = lastNext m.next ms := by
  unfold lastNext
  cases ms with
  | nil => rfl
  | cons n ns =>
      rw [List.getLast?_cons_cons]
      cases h : (n :: ns).getLast? with
      | none => exact absurd (List.getLast?_eq_none_iff.mp h) (List.cons_ne_nil _ _)
      | some l => rfl

theorem lastState_eq (previous : PublicationState) (files : List BatchFiles) :
    lastState previous files = lastNext previous (files.map BatchFiles.manifest) := by
  unfold lastState lastNext
  rw [List.getLast?_map, Option.map_map]
  rfl

/-- The cursors of continuing manifests rise from `previous` to the last checkpoint. -/
theorem Continue.bounds : ∀ {ms : List Manifest} {previous : PublicationState},
    Continue previous ms → previous.cursor ≤ (lastNext previous ms).cursor ∧
      ∀ m ∈ ms, previous.cursor ≤ m.previous.cursor ∧ m.previous.cursor ≤ m.next.cursor ∧
        m.next.cursor ≤ (lastNext previous ms).cursor
  | [], previous, _ => ⟨le_rfl, fun _ hm => absurd hm List.not_mem_nil⟩
  | m :: ms, previous, h => by
      obtain ⟨hprevious, hbelow, habove, hrest⟩ := h
      obtain ⟨hlast, hall⟩ := Continue.bounds hrest
      rw [lastNext_cons]
      refine ⟨by omega, fun m' hm' => ?_⟩
      rcases List.mem_cons.mp hm' with rfl | hm'
      · rw [hprevious]
        exact ⟨le_rfl, by omega, hlast⟩
      · obtain ⟨h1, h2, h3⟩ := hall m' hm'
        exact ⟨by omega, h2, h3⟩

/-- A checkpoint of the chain is `previous` or the one after a manifest. -/
theorem Continue.previous_of_mem : ∀ {ms : List Manifest} {previous : PublicationState},
    Continue previous ms → ∀ m ∈ ms, m.previous = previous ∨ ∃ m' ∈ ms, m.previous = m'.next
  | [], _, _, _, hm => by cases hm
  | n :: ms, previous, h, m, hm => by
      obtain ⟨hprevious, -, -, hrest⟩ := h
      rcases List.mem_cons.mp hm with rfl | hm
      · exact Or.inl hprevious
      · right
        rcases Continue.previous_of_mem hrest m hm with heq | ⟨m', hm', heq⟩
        · exact ⟨n, List.mem_cons_self, heq⟩
        · exact ⟨m', List.mem_cons_of_mem n hm', heq⟩

theorem lastNext_mem (previous : PublicationState) (ms : List Manifest) :
    lastNext previous ms = previous ∨ ∃ m ∈ ms, lastNext previous ms = m.next := by
  unfold lastNext
  cases h : ms.getLast? with
  | none => exact Or.inl rfl
  | some m => exact Or.inr ⟨m, List.mem_of_getLast? h, rfl⟩

theorem continue_append : ∀ {ms ns : List Manifest} {previous : PublicationState},
    Continue previous (ms ++ ns) ↔ Continue previous ms ∧ Continue (lastNext previous ms) ns
  | [], _, _ => ⟨fun h => ⟨trivial, h⟩, fun h => h.2⟩
  | m :: ms, ns, previous => by
      rw [lastNext_cons, List.cons_append]
      show (m.previous = previous ∧ previous.cursor < m.first_cursor ∧
          m.first_cursor ≤ m.next.cursor ∧ Continue m.next (ms ++ ns)) ↔
        (m.previous = previous ∧ previous.cursor < m.first_cursor ∧
          m.first_cursor ≤ m.next.cursor ∧ Continue m.next ms) ∧
            Continue (lastNext m.next ms) ns
      rw [continue_append]
      simp only [and_assoc]

/-- Two stretches of rows that follow each other. -/
theorem between_append (source : Source) (exercise_id : String) {low middle high : Int}
    (h : low ≤ middle) (h' : middle ≤ high) :
    source.between exercise_id low middle ++ source.between exercise_id middle high =
      source.between exercise_id low high := by
  have hrows : (source.between exercise_id low high).Pairwise fun a b => a.cursor < b.cursor :=
    source.ordered.filter _
  have hsplit := filter_cursor_append hrows h'
  have hfirst : (source.between exercise_id low high).filter (fun row => row.cursor ≤ middle) =
      source.between exercise_id low middle := by
    unfold Source.between
    rw [List.filter_filter]
    refine List.filter_congr fun row _ => ?_
    rw [Bool.eq_iff_iff]
    simp only [Bool.and_eq_true, decide_eq_true_eq]
    constructor
    · rintro ⟨hmiddle, hscope, hlow, -⟩
      exact ⟨hscope, hlow, hmiddle⟩
    · rintro ⟨hscope, hlow, hmiddle⟩
      exact ⟨hmiddle, hscope, hlow, hmiddle.trans h'⟩
  have hsecond : (source.between exercise_id low high).filter
      (fun row => middle < row.cursor ∧ row.cursor ≤ high) =
        source.between exercise_id middle high := by
    unfold Source.between
    rw [List.filter_filter]
    refine List.filter_congr fun row _ => ?_
    rw [Bool.eq_iff_iff]
    simp only [Bool.and_eq_true, decide_eq_true_eq]
    constructor
    · rintro ⟨⟨hmiddle, hhigh⟩, hscope, -, -⟩
      exact ⟨hscope, hmiddle, hhigh⟩
    · rintro ⟨hscope, hmiddle, hhigh⟩
      exact ⟨⟨hmiddle, hhigh⟩, hscope, h.trans_lt hmiddle, hhigh⟩
  have hall : (source.between exercise_id low high).filter (fun row => row.cursor ≤ high) =
      source.between exercise_id low high := by
    refine List.filter_eq_self.mpr fun row hrow => ?_
    have hcut := (List.mem_filter.mp hrow).2
    simp only [decide_eq_true_eq] at hcut
    exact decide_eq_true hcut.2.2
  rw [← hfirst, ← hsecond, hsplit, hall]

/-- What the directory walk says of a chain. -/
theorem ChainValid.continue {exercise_id : String} {previous : PublicationState}
    {paths : List (String × List (String × Node))} {files : List BatchFiles}
    (h : ChainValid env exercise_id previous paths files) :
    Continue previous (files.map BatchFiles.manifest) ∧
      (∀ f ∈ files, f.manifest.bytes = f.content.length ∧
        env.sha256 f.content = f.manifest.events_sha256 ∧
        f.manifest.event_count =
          f.manifest.next.event_count - f.manifest.previous.event_count ∧
        f.manifest.next.exercise_id = exercise_id) ∧
      files.map BatchFiles.content = paths.map fun e =>
        match e.2.lookup "events.jsonl" with
        | some (.file _ _ content) => content
        | _ => [] := by
  induction h with
  | nil previous => exact ⟨trivial, fun _ hf => absurd hf List.not_mem_nil, rfl⟩
  | @cons previous name entries f paths files head tail ih =>
      obtain ⟨hcontinue, hall, hcontents⟩ := ih
      refine ⟨⟨head.chained, head.below, head.above, hcontinue⟩, fun f' hf' => ?_, ?_⟩
      · rcases List.mem_cons.mp hf' with rfl | hf'
        · have := head.count
          rw [head.chained]
          exact ⟨head.bytes, head.digest, by omega, head.next.scope⟩
        · exact hall f' hf'
      · obtain ⟨mode, hfile⟩ := head.content
        rw [List.map_cons, List.map_cons, hcontents]
        simp only [hfile]

theorem read_eq_ok {source : Source} {published : PublicationState} {limit : Nat}
    {manifests : List Manifest} {selection : Selection}
    (h : env.read source published limit manifests = .ok selection) :
    ∃ s, env.readPrefix source published manifests = .ok s := by
  unfold read at h
  obtain ⟨s, hs, -⟩ := bind_eq_ok h
  exact ⟨s, hs⟩

/-- An accepted spool is faithful to the database. -/
theorem faithful_of_accepts {exercise_id : String} {root : Option Node} {source : Source}
    {limit : Nat} {p : Published} {selection : Selection}
    (hb : env.batches root exercise_id = .ok p)
    (hr : env.read source p.previous limit (p.batches.map BatchFiles.manifest) = .ok selection)
    (hsha : Set.InjOn env.sha256 (env.hashed exercise_id source p)) :
    Faithful env exercise_id root source p := by
  obtain ⟨s, hs⟩ := read_eq_ok hr
  obtain ⟨closed, hclosed, hrows, hblocks, -, -⟩ := readPrefix_blocks hs
  -- The chain that the directory walk found, of either kind.
  obtain ⟨hfiles, hcontinue, hvalid, hlast, hhead⟩ :
      batchContents root = p.batches.map BatchFiles.content ∧
        Continue (env.emptyState exercise_id) (p.batches.map BatchFiles.manifest) ∧
        (∀ f ∈ p.batches, f.manifest.bytes = f.content.length ∧
          env.sha256 f.content = f.manifest.events_sha256 ∧ f.manifest.event_count =
            f.manifest.next.event_count - f.manifest.previous.event_count ∧
          f.manifest.next.exercise_id = exercise_id) ∧
        p.previous = lastState (env.emptyState exercise_id) p.batches ∧
        (p.initialized = true → ∃ head, env.headOf root exercise_id = some head ∧
          (head = env.emptyState exercise_id ∨
            head ∈ p.batches.map fun f => f.manifest.next)) := by
    cases batches_eq_ok hb with
    | empty nothing =>
        refine ⟨?_, trivial, fun _ hf => absurd hf List.not_mem_nil, rfl, fun h => nomatch h⟩
        unfold batchContents batchDirectories
        rw [List.filter_eq_nil_iff.mpr fun e he => by rw [nothing e he]; exact Bool.false_ne_true]
        rfl
    | published root_eq head_is listed chained head_seen =>
        obtain ⟨hcontinue, hvalid, hcontents⟩ := chained.continue
        refine ⟨?_, hcontinue, hvalid, rfl, fun _ => ⟨_, head_is, head_seen⟩⟩
        rw [hcontents, batchPaths_eq_ok listed, root_eq, List.map_map]
        rfl
  have hlastNext : p.previous = lastNext (env.emptyState exercise_id)
      (p.batches.map BatchFiles.manifest) := by rw [hlast, lastState_eq]
  obtain ⟨hstart, hbounds⟩ := hcontinue.bounds
  rw [← hlastNext] at hstart hbounds
  have hscope : p.previous.exercise_id = exercise_id := by
    rcases lastNext_mem (env.emptyState exercise_id) (p.batches.map BatchFiles.manifest) with
      heq | ⟨m, hm, heq⟩
    · rw [hlastNext, heq]
      rfl
    · obtain ⟨f, hf, rfl⟩ := List.mem_map.mp hm
      rw [hlastNext, heq]
      exact (hvalid f hf).2.2.2
  rw [hscope] at hrows hblocks
  have hordered := upTo_ordered source exercise_id p.previous.cursor
  have hblock : ∀ f ∈ p.batches, Block env exercise_id f.manifest
      (source.upTo exercise_id f.manifest.previous.cursor)
      (source.between exercise_id f.manifest.previous.cursor f.manifest.next.cursor) := by
    intro f hf
    have hmem : f.manifest ∈ closed.map Prod.fst := hclosed ▸ List.mem_map_of_mem hf
    obtain ⟨b, hbmem, hbm⟩ := List.mem_map.mp hmem
    obtain ⟨hcut, hblock⟩ := filter_of_blocks hblocks (hclosed ▸ hcontinue)
      (fun _ hrow => absurd hrow List.not_mem_nil) (by rw [List.nil_append, hrows]) b hbmem
    obtain ⟨-, hprevious, hnext⟩ := hbounds f.manifest (List.mem_map_of_mem hf)
    rw [hbm] at hcut hblock
    rw [hcut, upTo_eq _ _ (hprevious.trans hnext), between_eq _ _ hnext] at hblock
    exact hblock
  have hcontents : ∀ f ∈ p.batches, f.content = env.lines
      (source.between exercise_id f.manifest.previous.cursor f.manifest.next.cursor) := by
    intro f hf
    refine hsha (Or.inl ⟨f, hf, rfl⟩) (Or.inr (Or.inl ⟨_, _, rfl⟩)) ?_
    rw [(hvalid f hf).2.1, (hblock f hf).digest]
  have hnext : ∀ f ∈ p.batches,
      f.manifest.next = env.stateAt source exercise_id f.manifest.next.cursor := by
    intro f hf
    obtain ⟨-, hprevious, hnext⟩ := hbounds f.manifest (List.mem_map_of_mem hf)
    have happend := filter_cursor_append hordered hprevious
    rw [upTo_eq _ _ (hprevious.trans hnext), between_eq _ _ hnext, upTo_eq _ _ hnext] at happend
    have hstate := (hblock f hf).next
    rw [happend] at hstate
    exact hstate.symm
  have hempty : env.emptyState exercise_id = env.stateAt source exercise_id 0 := by
    have hnone : source.upTo exercise_id 0 = [] := by
      have hzero : (0 : Int) ≤ p.previous.cursor := hstart
      rw [← upTo_eq source exercise_id hzero, ← hrows]
      refine List.filter_eq_nil_iff.mpr fun row hrow => ?_
      have hpositive : 0 < row.cursor :=
        cursor_lt_of_blocks hblocks (hclosed ▸ hcontinue) row hrow
      simpa using hpositive
    unfold stateAt
    rw [hnone]
    rfl
  have hprevious : ∀ f ∈ p.batches,
      f.manifest.previous = env.stateAt source exercise_id f.manifest.previous.cursor := by
    intro f hf
    rcases hcontinue.previous_of_mem f.manifest (List.mem_map_of_mem hf) with heq | ⟨m, hm, heq⟩
    · rw [heq]
      exact hempty
    · obtain ⟨f', hf', rfl⟩ := List.mem_map.mp hm
      rw [heq]
      exact hnext f' hf'
  exact
    { files := hfiles
      contents := hcontents
      manifests := by
        intro f hf
        obtain ⟨hbytes, hdigest, hcount, -⟩ := hvalid f hf
        rw [← hprevious f hf, ← hnext f hf]
        unfold manifestOf
        rw [hdigest, ← hcount, ← hbytes]
      chained := hcontinue
      last := hlast
      current := by
        rcases lastNext_mem (env.emptyState exercise_id) (p.batches.map BatchFiles.manifest) with
          heq | ⟨m, hm, heq⟩
        · rw [hlastNext, heq]
          exact hempty
        · obtain ⟨f, hf, rfl⟩ := List.mem_map.mp hm
          rw [hlastNext, heq]
          exact hnext f hf
      head := hhead }

/-- The batches up to a checkpoint hold the rows up to its cursor. -/
theorem Faithful.prefix_bytes {exercise_id : String} {root : Option Node} {source : Source}
    {p : Published} (h : Faithful env exercise_id root source p) {before : List BatchFiles}
    (hbefore : before <+: p.batches) :
    before.flatMap BatchFiles.content = env.lines (source.between exercise_id 0
      (lastState (env.emptyState exercise_id) before).cursor) := by
  induction before using List.reverseRecOn with
  | nil =>
      have hnone : source.between exercise_id 0 0 = [] := by
        refine List.filter_eq_nil_iff.mpr fun row _ => ?_
        simp only [decide_eq_true_eq]
        omega
      show [] = env.lines (source.between exercise_id 0 0)
      rw [hnone]
      rfl
  | append_singleton before f ih =>
      obtain ⟨after, hafter⟩ := hbefore
      have hf : f ∈ p.batches := by
        rw [← hafter]
        simp
      have hchain := h.chained
      rw [← hafter, List.map_append, List.map_append, List.append_assoc, continue_append] at hchain
      obtain ⟨hstart, hprevious, hbelow, habove, -⟩ := hchain
      rw [← lastState_eq] at hprevious hbelow
      have hzero := (hstart.bounds).1
      rw [← lastState_eq] at hzero
      have hlow : (0 : Int) ≤ (lastState (env.emptyState exercise_id) before).cursor := hzero
      have hnext : lastState (env.emptyState exercise_id) (before ++ [f]) = f.manifest.next := by
        unfold lastState
        rw [List.getLast?_concat]
        rfl
      rw [List.flatMap_append, List.flatMap_singleton, hnext,
        ih ⟨[f] ++ after, by rw [← hafter, List.append_assoc]⟩, h.contents f hf, hprevious,
        ← env.lines_append, between_append source exercise_id hlow (by omega)]

/-- Two accepted spools hold the same batch between the same cursors. -/
theorem Faithful.batch_unique {exercise_id : String} {root root' : Option Node} {source : Source}
    {p p' : Published} (h : Faithful env exercise_id root source p)
    (h' : Faithful env exercise_id root' source p') {f f' : BatchFiles} (hf : f ∈ p.batches)
    (hf' : f' ∈ p'.batches) (hfirst : f'.manifest.first_cursor = f.manifest.first_cursor)
    (hprevious : f'.manifest.previous.cursor = f.manifest.previous.cursor)
    (hnext : f'.manifest.next.cursor = f.manifest.next.cursor) : f' = f := by
  have hcontent : f'.content = f.content := by
    rw [h'.contents f' hf', h.contents f hf, hprevious, hnext]
  have hmanifest : f'.manifest = f.manifest := by
    rw [h'.manifests f' hf', h.manifests f hf, hprevious, hnext, hfirst, hcontent]
  cases f
  cases f'
  cases hcontent
  cases hmanifest
  rfl

/-- A publication that fails its first check writes nothing. -/
theorem publish_of_refused (names : Names) {root : Option Node} {source later : Source}
    {exercise_id : String} {limit : Nat}
    (h : ∀ r, env.inspect root source exercise_id limit ≠ .ok r) :
    ∃ e, env.publish names root source later exercise_id limit = ([], .error e) := by
  unfold publish
  split
  · cases hr : env.inspect root source exercise_id limit with
    | error e => exact ⟨e, rfl⟩
    | ok r => exact absurd hr (h r)
  · exact ⟨_, rfl⟩

/-- A database with other records in the published prefix is refused. -/
theorem inspect_of_changed {exercise_id : String} {root : Option Node} {source source' : Source}
    {limit limit' : Nat} {p : Published} {selection : Selection}
    (h : env.inspect root source exercise_id limit = .ok (p, selection))
    (hsha : env.sha256 (env.records (source'.upTo exercise_id p.previous.cursor)) =
        env.sha256 (env.records (source.upTo exercise_id p.previous.cursor)) →
      env.records (source'.upTo exercise_id p.previous.cursor) =
        env.records (source.upTo exercise_id p.previous.cursor))
    (hscope : p.previous.exercise_id = exercise_id)
    (hchanged : env.records (source'.upTo exercise_id p.previous.cursor) ≠
      env.records (source.upTo exercise_id p.previous.cursor)) :
    ∀ r, env.inspect root source' exercise_id limit' ≠ .ok r := by
  rintro ⟨p', selection'⟩ h'
  obtain ⟨q, hq, h⟩ := bind_eq_ok h
  obtain ⟨t, hread, h⟩ := bind_eq_ok h
  cases h
  obtain ⟨q', hq', h'⟩ := bind_eq_ok h'
  obtain ⟨t', hread', h'⟩ := bind_eq_ok h'
  cases h'
  have heq : p' = p := Except.ok.inj (hq'.symm.trans hq)
  subst heq
  obtain ⟨s, hs⟩ := read_eq_ok hread
  obtain ⟨s', hs'⟩ := read_eq_ok hread'
  obtain ⟨-, -, -, -, hdigest, -⟩ := readPrefix_blocks hs
  obtain ⟨-, -, -, -, hdigest', -⟩ := readPrefix_blocks hs'
  rw [hscope] at hdigest hdigest'
  exact hchanged (hsha (hdigest'.trans hdigest.symm))

/-- A spool and a database that pass the checks agree: every batch file holds the canonical
encodings of the rows between its cursors, every manifest and checkpoint is that of these rows, and
`HEAD` is on the chain. So other accepted files can differ only in where they cut the same events
and in the gap before a first cursor, and a database with other records is refused unwritten. -/
theorem verification_sound {exercise_id : String} {root : Option Node} {source : Source}
    {limit : Nat} {p : Published} {selection : Selection}
    (h : env.inspect root source exercise_id limit = .ok (p, selection))
    (hsha : Set.InjOn env.sha256 (env.hashed exercise_id source p)) :
    Faithful env exercise_id root source p ∧
      (∀ before, before <+: p.batches → before.flatMap BatchFiles.content =
        env.lines (source.between exercise_id 0
          (lastState (env.emptyState exercise_id) before).cursor)) ∧
      (∀ root' limit' p' selection',
        env.inspect root' source exercise_id limit' = .ok (p', selection') →
          Set.InjOn env.sha256 (env.hashed exercise_id source p') →
            ∀ f ∈ p.batches, ∀ f' ∈ p'.batches,
              f'.manifest.first_cursor = f.manifest.first_cursor →
                f'.manifest.previous.cursor = f.manifest.previous.cursor →
                  f'.manifest.next.cursor = f.manifest.next.cursor → f' = f) ∧
      ∀ source' limit' names later,
        Set.InjOn env.sha256 {env.records (source.upTo exercise_id p.previous.cursor),
          env.records (source'.upTo exercise_id p.previous.cursor)} →
        env.records (source'.upTo exercise_id p.previous.cursor) ≠
          env.records (source.upTo exercise_id p.previous.cursor) →
            ∃ e, env.publish names root source' later exercise_id limit' = ([], .error e) := by
  have hfaithful : ∀ {root : Option Node} {limit : Nat} {p : Published} {selection : Selection},
      env.inspect root source exercise_id limit = .ok (p, selection) →
        Set.InjOn env.sha256 (env.hashed exercise_id source p) →
          Faithful env exercise_id root source p := by
    intro root limit p selection h hsha
    obtain ⟨q, hq, h⟩ := bind_eq_ok h
    obtain ⟨t, hread, h⟩ := bind_eq_ok h
    cases h
    exact faithful_of_accepts hq hread hsha
  have hthis := hfaithful h hsha
  refine ⟨hthis, fun before hbefore => hthis.prefix_bytes hbefore, ?_, ?_⟩
  · intro root' limit' p' selection' h' hsha' f hf f' hf' hfirst hprevious hnext
    exact hthis.batch_unique (hfaithful h' hsha') hf hf' hfirst hprevious hnext
  · intro source' limit' names later hinj hchanged
    refine publish_of_refused names (inspect_of_changed h ?_ ?_ hchanged)
    · exact fun heq => hinj (Or.inr rfl) (Or.inl rfl) heq
    · rw [hthis.current]
      rfl

/-! ## A small spool -/

/-- The text of a value without floats. -/
def sampleText (value : Json) : Bytes :=
  (Json.dumpChars (fun _ => "") value ++ ['\n']).map fun c => c.toNat.toUInt8

/-- An event that the schema accepts. -/
def sampleEvent : Json :=
  .obj [("action", .str "exercise.note"),
    ("actor", .obj [("id", .str "staff-1"), ("type", .str "facilitator")]), ("data", .obj []),
    ("event_id", .str "6f1c0e0a-0000-4000-8000-000000000001"),
    ("event_type", .str "exercise.note"), ("exercise_id", .str "EX-1"), ("message", .str "Note"),
    ("outcome", .obj [("status", .str "success")]), ("phase", .str "control"),
    ("provenance", .obj [("producer", .str "test"), ("producer_version", .str "1.0.0")]),
    ("run_id", .str "RUN-1"),
    ("safety", .obj [("destructive", .bool false), ("dry_run", .bool false),
      ("simulation_only", .bool true), ("within_allowlist", .bool true)]),
    ("schema_version", .str "1.0.0"), ("sequence", .int 1), ("severity", .str "info"),
    ("source", .obj [("component", .str "test"), ("kind", .str "test")]), ("target", .null),
    ("timestamp", .str "2026-01-01T00:00:00.000Z"), ("visibility", .str "facilitator")]

/-- The payload of the event as the store writes it. -/
def samplePayload : String :=
  "\x7b\"action\":\"exercise.note\",\"actor\":\x7b\"id\":\"staff-1\"," ++
    "\"type\":\"facilitator\"\x7d,\"data\":\x7b\x7d," ++
    "\"event_id\":\"6f1c0e0a-0000-4000-8000-000000000001\"," ++
    "\"event_type\":\"exercise.note\",\"exercise_id\":\"EX-1\",\"message\":\"Note\"," ++
    "\"outcome\":\x7b\"status\":\"success\"\x7d,\"phase\":\"control\"," ++
    "\"provenance\":\x7b\"producer\":\"test\",\"producer_version\":\"1.0.0\"\x7d," ++
    "\"run_id\":\"RUN-1\",\"safety\":\x7b\"destructive\":false,\"dry_run\":false," ++
    "\"simulation_only\":true,\"within_allowlist\":true\x7d," ++
    "\"schema_version\":\"1.0.0\",\"sequence\":1,\"severity\":\"info\"," ++
    "\"source\":\x7b\"component\":\"test\",\"kind\":\"test\"\x7d,\"target\":null," ++
    "\"timestamp\":\"2026-01-01T00:00:00.000Z\",\"visibility\":\"facilitator\"\x7d"

/-- A row with that event. -/
def sampleRow (payload : String) : Row where
  cursor := 1
  event_id := .text "6f1c0e0a-0000-4000-8000-000000000001"
  exercise_id := .text "EX-1"
  run_id := .text "RUN-1"
  sequence := .integer 1
  visibility := .text "facilitator"
  payload := .text payload

/-- A database with one row. -/
def sampleSource (payload : String) : Source := ⟨[sampleRow payload], List.pairwise_singleton _ _⟩

/-- The digests of the byte strings of the small spool, which differ in length. -/
def sampleSha256 (content : Bytes) : String :=
  if content.length = 600 then "ccb426b3312b22ab8a5d8e79715e7d1d40e63dbc60c5e24426da67ef30eb6e3f"
  else if content.length = 621 then
    "0677465e0c215d6e195ee71bbf3fc537b1006bc1e10289bdd8c50889f7ba3148"
  else "e3b0c44298fc1c149afbf4c8996fb92427ae41e4649b934ca495991b7852b855"

/-- The checkpoint before the event. -/
def sampleStart : PublicationState := state "EX-1" 0 0 (sampleSha256 [])

/-- The checkpoint after the event. -/
def sampleEnd : PublicationState :=
  state "EX-1" 1 1 "0677465e0c215d6e195ee71bbf3fc537b1006bc1e10289bdd8c50889f7ba3148"

/-- The manifest of the event. -/
def sampleManifest : Manifest :=
  ⟨sampleStart, sampleEnd, 1, 1, 600,
    "ccb426b3312b22ab8a5d8e79715e7d1d40e63dbc60c5e24426da67ef30eb6e3f"⟩

/-- The collaborators on the texts of the small spool; a blank may end a payload. -/
def sample : Spool where
  loads := fun text =>
    if text = samplePayload ∨ text = samplePayload ++ " " then .ok sampleEvent else .error .value
  load_bytes := fun content =>
    if content = sampleText sampleEnd.toJson then .ok sampleEnd.toJson
    else if content = sampleText sampleManifest.toJson then .ok sampleManifest.toJson
    else .error .value
  sha256 := sampleSha256
  float_repr := fun _ => ""
  formats := FormatChecker.lenient

/-- The spool after the publication of the event. -/
def sampleRoot : Option Node :=
  some (.directory 0o700
    [(".lock", newFile), ("HEAD.json", .file 0o600 1 (sampleText sampleEnd.toJson)),
      (batchName 1 1, .directory 0o700
        [("events.jsonl", .file 0o600 1 (sampleText sampleEvent)),
          ("manifest.json", .file 0o600 1 (sampleText sampleManifest.toJson))])])

/-- The publication that the small spool holds. -/
def samplePublished : Published :=
  ⟨sampleEnd, true, [⟨sampleManifest, sampleText sampleEvent⟩]⟩

/-- What the small spool holds, what the checks find for either row, that the rows differ, and the
row as a line of the event file and as a record of the ledger. -/
theorem sample_evaluated :
    sample.batches sampleRoot "EX-1" = .ok samplePublished ∧
      sample.read (sampleSource samplePayload) sampleEnd 500 [sampleManifest] =
        .ok ⟨[], none, sampleEnd, 0⟩ ∧
      sample.read (sampleSource (samplePayload ++ " ")) sampleEnd 500 [sampleManifest] =
        .ok ⟨[], none, sampleEnd, 0⟩ ∧
      (sampleSource (samplePayload ++ " ")).upTo "EX-1" samplePublished.previous.cursor ≠
        (sampleSource samplePayload).upTo "EX-1" samplePublished.previous.cursor ∧
      sample.lines [sampleRow samplePayload] = sampleText sampleEvent ∧
      (sampleText sampleEvent).length = 600 ∧
      (sample.records [sampleRow samplePayload]).length = 621 := by
  -- Each call is evaluated by itself; the last goal is about the rows alone.
  refine ⟨?_, ?_, ?_, ?_⟩
  · decide +kernel
  · decide +kernel
  · decide +kernel
  · decide +kernel

theorem inspect_sample {payload : String}
    (h : payload = samplePayload ∨ payload = samplePayload ++ " ") :
    sample.inspect sampleRoot (sampleSource payload) "EX-1" 500 =
      .ok (samplePublished, ⟨[], none, sampleEnd, 0⟩) := by
  obtain ⟨hbatches, hread, hread', -⟩ := sample_evaluated
  unfold inspect
  rw [bind_of_eq_ok hbatches]
  rcases h with rfl | rfl
  · exact bind_of_eq_ok hread
  · exact bind_of_eq_ok hread'

/-- A row that was changed inside the published prefix passes as well: a blank after the payload
changes neither the event nor a column that is compared. -/
theorem changed_row_accepted :
    sample.inspect sampleRoot (sampleSource samplePayload) "EX-1" 500 =
        .ok (samplePublished, ⟨[], none, sampleEnd, 0⟩) ∧
      sample.inspect sampleRoot (sampleSource (samplePayload ++ " ")) "EX-1" 500 =
        .ok (samplePublished, ⟨[], none, sampleEnd, 0⟩) ∧
      (sampleSource (samplePayload ++ " ")).upTo "EX-1" samplePublished.previous.cursor ≠
        (sampleSource samplePayload).upTo "EX-1" samplePublished.previous.cursor := by
  obtain ⟨-, -, -, hrows, -⟩ := sample_evaluated
  exact ⟨inspect_sample (Or.inl rfl), inspect_sample (Or.inr rfl), hrows⟩

/-- The byte strings that are compared on the small spool. -/
theorem hashed_sample {content : Bytes}
    (h : content ∈ sample.hashed "EX-1" (sampleSource samplePayload) samplePublished) :
    content = [] ∨ content = sampleText sampleEvent ∨
      content = sample.records [sampleRow samplePayload] := by
  obtain ⟨-, -, -, -, hline, -⟩ := sample_evaluated
  have hfilter : ∀ q : Row → Bool, (sampleSource samplePayload).rows.filter q = [] ∨
      (sampleSource samplePayload).rows.filter q = [sampleRow samplePayload] := by
    intro q
    have hrows : (sampleSource samplePayload).rows = [sampleRow samplePayload] := rfl
    rw [hrows, List.filter_singleton]
    cases q (sampleRow samplePayload) with
    | true => exact Or.inr rfl
    | false => exact Or.inl rfl
  rcases h with ⟨f, hf, rfl⟩ | ⟨low, high, rfl⟩ | ⟨high, rfl⟩
  · rw [List.mem_singleton.mp hf]
    exact Or.inr (Or.inl rfl)
  · unfold Source.between
    rcases hfilter _ with heq | heq <;> rw [heq]
    · exact Or.inl rfl
    · exact Or.inr (Or.inl hline)
  · unfold Source.upTo
    rcases hfilter _ with heq | heq <;> rw [heq]
    · exact Or.inl rfl
    · exact Or.inr (Or.inr rfl)

/-- Byte strings of these lengths have different digests. -/
theorem sampleSha256_inj {a b x y : Bytes} (hx : x.length = 600) (hy : y.length = 621)
    (ha : a = [] ∨ a = x ∨ a = y) (hb : b = [] ∨ b = x ∨ b = y)
    (hab : sampleSha256 a = sampleSha256 b) : a = b := by
  rcases ha with rfl | rfl | rfl <;> rcases hb with rfl | rfl | rfl <;>
    first
      | rfl
      | simp [sampleSha256, hx, hy] at hab

/-- No two of them have one digest. -/
theorem injOn_sample : Set.InjOn sample.sha256
    (sample.hashed "EX-1" (sampleSource samplePayload) samplePublished) := by
  obtain ⟨-, -, -, -, -, hline, hrecord⟩ := sample_evaluated
  intro a ha b hb hab
  exact sampleSha256_inj hline hrecord (hashed_sample ha) (hashed_sample hb) hab

theorem verification_sound_sample :
    Faithful sample "EX-1" sampleRoot (sampleSource samplePayload) samplePublished :=
  (verification_sound (inspect_sample (Or.inl rfl)) injOn_sample).1

end NetStrike.Dashboard.Spool
