import Mathlib.Algebra.Ring.Nat
import Mathlib.Data.List.FinRange
import NetStrike.Scripts.BundleTrees

/-!
# The tree hash of the release checker

`_tree_hash` of `dashboard/release_check.py`: the tree is listed with a stack of directories and
running limits, and the files found are hashed in the order of their paths.

`tree_hash_identifies` compares it with the hash of the bundle builder.
-/

set_option autoImplicit false

namespace NetStrike.Dashboard.ReleaseCheck

open NetStrike.Foundation NetStrike.Foundation.Checked NetStrike.Scripts

/-- `MAX_FILE_BYTES`. -/
def maxFileBytes : Nat := 64 * 1024 * 1024

/-- `MAX_TREE_BYTES`. -/
def maxTreeBytes : Nat := 128 * 1024 * 1024

/-- `MAX_TREE_ENTRIES`. -/
def maxTreeEntries : Nat := 10000

/-- `MAX_DEPTH`. -/
def maxDepth : Nat := 32

/-- A directory that is still to be listed, with its path and its depth. -/
structure Pending where
  parent : PathParts
  depth : Nat
  listing : Listing String Contents

/-- The variables of the loop of `_tree_hash`; the top of the stack comes first. -/
structure Scan where
  paths : List (PathParts × Contents)
  totalEntries : Nat
  pending : List Pending

/-- The loop over the entries of one directory. -/
def scandir (parent : PathParts) (depth : Nat) :
    Listing String Contents → Scan → Except Refusal Scan
  | .nil, s => .ok s
  | .file name content rest, s => do
      require (s.totalEntries + 1 ≤ maxTreeEntries) (.value "unsafe or oversized source tree")
      scandir parent depth rest
        { s with
          totalEntries := s.totalEntries + 1
          paths := s.paths ++ [(parent ++ [name], content)] }
  | .directory name inner rest, s => do
      require (s.totalEntries + 1 ≤ maxTreeEntries) (.value "unsafe or oversized source tree")
      require (depth + 1 ≤ maxDepth) (.value "source tree exceeds depth limit")
      scandir parent depth rest
        { s with
          totalEntries := s.totalEntries + 1
          pending := ⟨parent ++ [name], depth + 1, inner⟩ :: s.pending }

/-- The directories that a stack leads to. -/
def weight (pending : List Pending) : Nat :=
  (pending.map fun p => p.listing.directories + 1).sum

theorem scandir_weight {parent : PathParts} {depth : Nat} {listing : Listing String Contents}
    {s s' : Scan} (h : scandir parent depth listing s = .ok s') :
    weight s'.pending = weight s.pending + listing.directories := by
  induction listing generalizing s with
  | nil =>
      rw [← Except.ok.inj h]
      rfl
  | file name content rest ih =>
      obtain ⟨_, -, h⟩ := bind_eq_ok h
      rw [ih h]
      rfl
  | directory name inner rest _ ih =>
      obtain ⟨_, -, h⟩ := bind_eq_ok h
      obtain ⟨_, -, h⟩ := bind_eq_ok h
      rw [ih h, Listing.directories]
      simp only [weight, List.map_cons, List.sum_cons]
      omega

/-- The loop over the stack. -/
def scan (s : Scan) : Except Refusal Scan :=
  match hpending : s.pending with
  | [] => .ok s
  | top :: rest =>
      match hdir : scandir top.parent top.depth top.listing { s with pending := rest } with
      | .error e => .error e
      | .ok s' =>
          have : weight s'.pending < weight s.pending := by
            rw [scandir_weight hdir, hpending]
            simp only [weight, List.map_cons, List.sum_cons]
            omega
          scan s'
termination_by weight s.pending

/-- `_read_regular`, for a regular file that does not change. -/
def readRegular (content : Contents) (maximum : Nat) : Except Refusal Contents := do
  require (content.length ≤ maximum) (.value "unsafe or oversized file")
  return content

/-- The updates of the digest, with the bytes read so far. -/
def updates (sha : Sha256) (root : PathParts) :
    Nat → List (PathParts × Contents) → Except Refusal Contents
  | _, [] => .ok []
  | totalBytes, (path, file) :: rest => do
      let content ← readRegular file (min maxFileBytes (maxTreeBytes - totalBytes))
      let after ← updates sha root (totalBytes + content.length) rest
      return utf8 (asPosix (relativeTo root path)) ++ [0] ++ sha.digest content ++ after

/-- `_tree_hash`. -/
def treeHash (sha : Sha256) (root : PathParts) (t : FileTree) : Except Refusal (List Char) := do
  let s ← scan ⟨[], 0, [⟨root, 0, t.listing⟩]⟩
  let digest ← updates sha root 0 (sortPaths s.paths)
  return hexdigest (sha.digest digest)

/-- The tree keeps the limits of the checker. -/
structure WithinLimits (t : FileTree) : Prop where
  entries : t.listing.entries ≤ maxTreeEntries
  depth : t.listing.depth ≤ maxDepth
  each : ∀ entry ∈ t.files, entry.2.length ≤ maxFileBytes
  total : (t.files.map fun entry => entry.2.length).sum ≤ maxTreeBytes

/-! ## What the scan finds -/

/-- The entries that a stack leads to. -/
def entriesOf (pending : List Pending) : Nat := (pending.map fun p => p.listing.entries).sum

/-- The files that a stack leads to. -/
def filesOf (pending : List Pending) : List (PathParts × Contents) :=
  pending.flatMap fun p => p.listing.files p.parent

/-- Within the limits one directory is listed: its files are found, its directories are pushed. -/
theorem scandir_ok (parent : PathParts) {depth : Nat} {listing : Listing String Contents} {s : Scan}
    (hentries : s.totalEntries + listing.entries + entriesOf s.pending ≤ maxTreeEntries)
    (hdepth : depth + listing.depth ≤ maxDepth)
    (hpending : ∀ p ∈ s.pending, p.depth + p.listing.depth ≤ maxDepth) :
    ∃ s', scandir parent depth listing s = .ok s' ∧
      s'.totalEntries + entriesOf s'.pending =
        s.totalEntries + listing.entries + entriesOf s.pending ∧
      (∀ p ∈ s'.pending, p.depth + p.listing.depth ≤ maxDepth) ∧
      (s'.paths ++ filesOf s'.pending).Perm
        (s.paths ++ listing.files parent ++ filesOf s.pending) := by
  induction listing generalizing s with
  | nil =>
      refine ⟨s, rfl, rfl, hpending, ?_⟩
      rw [Listing.files, List.append_nil]
  | file name content rest ih =>
      rw [Listing.entries] at hentries
      obtain ⟨s', heq, htotal, hdepths, hperm⟩ :=
        ih (s := { s with
            totalEntries := s.totalEntries + 1
            paths := s.paths ++ [(parent ++ [name], content)] })
          (by dsimp only; omega) hdepth hpending
      refine ⟨s', ?_, ?_, hdepths, hperm.trans ?_⟩
      · rw [scandir, bind_of_eq_ok (require_of (by omega))]
        exact heq
      · rw [htotal, Listing.entries]
        dsimp only
        omega
      · rw [Listing.files, List.append_assoc s.paths, List.singleton_append]
  | directory name inner rest _ ih =>
      rw [Listing.entries] at hentries
      rw [Listing.depth] at hdepth
      obtain ⟨s', heq, htotal, hdepths, hperm⟩ :=
        ih (s := { s with
            totalEntries := s.totalEntries + 1
            pending := ⟨parent ++ [name], depth + 1, inner⟩ :: s.pending })
          (by simp only [entriesOf, List.map_cons, List.sum_cons] at hentries ⊢; omega)
          (by omega)
          (List.forall_mem_cons.mpr ⟨by dsimp only; omega, hpending⟩)
      refine ⟨s', ?_, ?_, hdepths, hperm.trans ?_⟩
      · rw [scandir, bind_of_eq_ok (require_of (by omega)), bind_of_eq_ok (require_of (by omega))]
        exact heq
      · rw [htotal, Listing.entries]
        simp only [entriesOf, List.map_cons, List.sum_cons]
        omega
      · rw [Listing.files, filesOf, List.flatMap_cons]
        simp only [List.append_assoc]
        refine List.Perm.append_left _ ?_
        rw [← List.append_assoc, ← List.append_assoc]
        exact List.Perm.append_right _ List.perm_append_comm

theorem scan_nil {s : Scan} (h : s.pending = []) : scan s = .ok s := by
  rw [scan]
  split
  · rfl
  · next heq => exact absurd (h.symm.trans heq) (List.cons_ne_nil _ _).symm

theorem scan_cons {s s' : Scan} {top : Pending} {rest : List Pending} (h : s.pending = top :: rest)
    (hdir : scandir top.parent top.depth top.listing { s with pending := rest } = .ok s') :
    scan s = scan s' := by
  rw [scan]
  split
  · next heq => exact absurd (h.symm.trans heq) (List.cons_ne_nil _ _)
  · next first tail heq =>
      obtain ⟨rfl, rfl⟩ := List.cons.inj (h.symm.trans heq)
      split
      · next hfailed => exact nomatch hdir.symm.trans hfailed
      · next found hfound =>
          obtain rfl := Except.ok.inj (hdir.symm.trans hfound)
          rfl

/-- **Within the limits the scan finds every file once.** -/
theorem scan_ok (s : Scan) (hentries : s.totalEntries + entriesOf s.pending ≤ maxTreeEntries)
    (hpending : ∀ p ∈ s.pending, p.depth + p.listing.depth ≤ maxDepth) :
    ∃ s', scan s = .ok s' ∧ s'.paths.Perm (s.paths ++ filesOf s.pending) := by
  induction hw : weight s.pending using Nat.strongRecOn generalizing s with
  | ind w ih =>
      cases hstack : s.pending with
      | nil =>
          refine ⟨s, scan_nil hstack, ?_⟩
          rw [filesOf, List.flatMap_nil, List.append_nil]
      | cons top rest =>
          rw [hstack] at hentries hpending
          rw [List.forall_mem_cons] at hpending
          simp only [entriesOf, List.map_cons, List.sum_cons] at hentries
          obtain ⟨s₁, heq, htotal, hdepths, hperm⟩ :=
            scandir_ok top.parent (s := { s with pending := rest })
              (by simp only [entriesOf]; omega) hpending.1 hpending.2
          have hless : weight s₁.pending < w := by
            rw [scandir_weight heq, ← hw, hstack]
            simp only [weight, List.map_cons, List.sum_cons]
            omega
          obtain ⟨s₂, hscan, hpaths⟩ := ih _ hless s₁
            (by simp only [entriesOf] at htotal ⊢; omega) hdepths rfl
          refine ⟨s₂, (scan_cons hstack heq).trans hscan, hpaths.trans (hperm.trans ?_)⟩
          rw [filesOf, filesOf, List.flatMap_cons, List.append_assoc]

/-- Within the limits every file is read, and the digest is updated with the records. -/
theorem updates_ok (sha : Sha256) (root : PathParts) {entries : List (PathParts × Contents)}
    {totalBytes : Nat} (heach : ∀ entry ∈ entries, entry.2.length ≤ maxFileBytes)
    (htotal : totalBytes + (entries.map fun entry => entry.2.length).sum ≤ maxTreeBytes) :
    updates sha root totalBytes (entries.map fun entry => (root ++ entry.1, entry.2)) =
      .ok ((entries.map sha.record).flatMap (frame 0)) := by
  induction entries generalizing totalBytes with
  | nil => rfl
  | cons entry entries ih =>
      rw [List.forall_mem_cons] at heach
      rw [List.map_cons, List.sum_cons] at htotal
      have hread : readRegular entry.2 (min maxFileBytes (maxTreeBytes - totalBytes)) =
          .ok entry.2 :=
        bind_of_eq_ok (require_of (le_min heach.1 (by omega)))
      have hrelative : relativeTo root (root ++ entry.1) = entry.1 := List.drop_left
      rw [List.map_cons, updates, bind_of_eq_ok hread, ih heach.2 (by omega), hrelative,
        List.map_cons, List.flatMap_cons, frame, Sha256.record]
      simp only [List.append_assoc, List.cons_append, List.nil_append]
      rfl

/-- Within the limits the checker computes the digest of the stream. -/
theorem treeHash_eq (sha : Sha256) (root : PathParts) {t : FileTree} (h : WithinLimits t) :
    treeHash sha root t = .ok (hexdigest (sha.digest (sha.stream t))) := by
  obtain ⟨s, hscan, hperm⟩ := scan_ok ⟨[], 0, [⟨root, 0, t.listing⟩]⟩
    (by simpa [entriesOf] using h.entries) (by simpa using h.depth)
  have hfiles : s.paths.Perm (t.files.map fun entry => (root ++ entry.1, entry.2)) := by
    rw [FileTree.files, ← Listing.files_eq_map]
    simpa [filesOf] using hperm
  have hnodup : ((t.files.map fun entry => (root ++ entry.1, entry.2)).map Prod.fst).Nodup := by
    have hpaths := (Listing.nodup_paths t.distinct).map (List.append_right_injective root)
    rw [List.map_map] at hpaths ⊢
    exact hpaths
  have hsorted : sortPaths s.paths =
      (sortPaths t.files).map fun entry => (root ++ entry.1, entry.2) := by
    rw [← sortPaths_perm hnodup hfiles.symm, sortPaths_map_append]
  have hsame := perm_sortPaths t.files
  rw [treeHash, bind_of_eq_ok hscan, hsorted, updates_ok sha root]
  · rfl
  · exact fun entry hentry => h.each entry (hsame.mem_iff.mp hentry)
  · rw [Nat.zero_add, (hsame.map _).sum_nat]
    exact h.total

/-- **The checker's tree hash is the builder's.** Within the limits the two hashes of a tree agree,
whatever order its directories are listed in, and two trees have one hash only if they hold the same
contents under the same paths, as long as SHA-256 does not collide on what was hashed. -/
theorem tree_hash_identifies (sha : Sha256) :
    (∀ (root : PathParts) (t : FileTree), WithinLimits t →
      ∃ digest, treeHash sha root t = .ok digest ∧ sha.directorySha256 root t = .ok digest) ∧
    (∀ (root root' : PathParts) (t t' : FileTree), t.SameFiles t' →
      sha.directorySha256 root t = sha.directorySha256 root' t') ∧
    (∀ (root root' : PathParts) (t t' : FileTree), sha.NoCollision t t' →
      sha.directorySha256 root t = sha.directorySha256 root' t' → t.SameFiles t') := by
  refine ⟨fun root t ht => ?_, fun root root' t t' hsame => ?_, fun root root' t t' hc heq => ?_⟩
  · exact ⟨_, treeHash_eq sha root ht, sha.directorySha256_eq root t⟩
  · rw [sha.directorySha256_eq, sha.directorySha256_eq, sha.stream_congr hsame]
  · exact sha.directory_sha256_inj hc root root' heq

/-- A directory `d` with a file `f`. -/
def sampleTree (content : Contents) : FileTree where
  listing := .directory "d" (.file "f" content .nil) .nil
  distinct := ⟨List.not_mem_nil, ⟨List.not_mem_nil, trivial⟩, trivial⟩
  legal := ⟨by decide, ⟨by decide, trivial⟩, trivial⟩

theorem sampleSha_noCollision : sampleSha.NoCollision (sampleTree [1]) (sampleTree [2]) := by
  have hsorted : ∀ content : Contents, sortPaths (sampleTree content).files =
      [(["d", "f"], content)] := fun content => List.mergeSort_singleton _
  unfold Sha256.NoCollision Sha256.stream
  rw [hsorted, hsorted]
  decide

/-- The hashes of the sample tree agree, and a changed file changes them. -/
theorem tree_hash_sample :
    (∃ digest, treeHash sampleSha ["source"] (sampleTree [1]) = .ok digest ∧
      sampleSha.directorySha256 ["source"] (sampleTree [1]) = .ok digest) ∧
    sampleSha.directorySha256 ["source"] (sampleTree [1]) ≠
      sampleSha.directorySha256 ["source"] (sampleTree [2]) :=
  ⟨(tree_hash_identifies sampleSha).1 ["source"] (sampleTree [1])
      ⟨by decide, by decide, by decide, by decide⟩,
    fun heq => absurd
      (((tree_hash_identifies sampleSha).2.2 _ _ _ _ sampleSha_noCollision heq ["d", "f"] [1]).mp
        (by decide)) (by decide)⟩

end NetStrike.Dashboard.ReleaseCheck
