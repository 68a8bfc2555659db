import Mathlib.Data.List.Sort
import Mathlib.Data.String.Basic
import NetStrike.Foundation.Checked
import NetStrike.Foundation.JsonText
import NetStrike.Foundation.Listing
import NetStrike.Foundation.Separated

/-!
# The source trees of an offline bundle

The hash that `scripts/offline_bundle.py` gives to a source tree: `_sha256` and `_directory_sha256`.
A tree holds regular files and directories and no links. SHA-256 is a parameter; what the results
need of it is that its digests have 32 bytes.

`directory_sha256_inj` says that a tree hash stands for one set of paths with contents, as long as
SHA-256 does not collide on the strings that were hashed.
-/

set_option autoImplicit false

namespace NetStrike.Scripts

open NetStrike.Foundation

/-- The contents of a file. -/
abbrev Contents := List UInt8

/-- The parts of a path. -/
abbrev PathParts := List String

/-- Why an operation was refused: a `ValueError`, a text that is no UTF-8, a directory where a file
is written, or another error of the file system or of the archive. -/
inductive Refusal where
  | value (message : String)
  | unicode
  | isADirectory
  | os
deriving DecidableEq

/-! ## Trees -/

/-- The names that a directory can hold. -/
def LegalName (name : String) : Prop :=
  name ≠ "" ∧ name ≠ "." ∧ name ≠ ".." ∧ '/' ∉ name.toList ∧ '\x00' ∉ name.toList

instance (name : String) : Decidable (LegalName name) := inferInstanceAs (Decidable (_ ∧ _))

/-- A directory tree of regular files and directories. -/
structure FileTree where
  listing : Listing String Contents
  distinct : listing.Distinct
  legal : listing.EveryName LegalName

namespace FileTree

/-- The files of a tree with their relative paths. -/
def files (t : FileTree) : List (PathParts × Contents) := t.listing.files []

theorem legal_of_mem {t : FileTree} {entry : PathParts × Contents} (h : entry ∈ t.files) :
    ∀ name ∈ entry.1, LegalName name := t.legal.of_mem_files h

theorem ne_nil_of_mem {t : FileTree} {entry : PathParts × Contents} (h : entry ∈ t.files) :
    entry.1 ≠ [] := by
  obtain ⟨name, path, heq, -⟩ := Listing.exists_cons_of_mem_files h
  rw [heq]
  exact List.cons_ne_nil _ _

theorem nodup_files (t : FileTree) : t.files.Nodup := (Listing.nodup_paths t.distinct).of_map _

/-- The two trees hold the same contents under the same paths. -/
def SameFiles (t t' : FileTree) : Prop :=
  ∀ path content, (path, content) ∈ t.files ↔ (path, content) ∈ t'.files

theorem SameFiles.perm {t t' : FileTree} (h : SameFiles t t') : t.files.Perm t'.files :=
  (List.perm_ext_iff_of_nodup t.nodup_files t'.nodup_files).mpr fun entry => h entry.1 entry.2

end FileTree

/-! ## Paths -/

/-- `PurePath.as_posix`. -/
def asPosix : PathParts → String
  | [] => "."
  | part :: parts => String.ofList (join '/' ((part :: parts).map String.toList))

/-- `PurePath.relative_to`, for a path below the directory. -/
def relativeTo (directory path : PathParts) : PathParts := path.drop directory.length

/-- `sorted` on paths: they are compared part by part. -/
def sortPaths {β : Type} (entries : List (PathParts × β)) : List (PathParts × β) :=
  entries.mergeSort fun a b => decide (a.1 ≤ b.1)

/-- The posix text of a path of legal names determines the path. -/
theorem asPosix_inj {p q : PathParts} (hp : p ≠ []) (hq : q ≠ [])
    (hlegalp : ∀ name ∈ p, LegalName name) (hlegalq : ∀ name ∈ q, LegalName name)
    (h : asPosix p = asPosix q) : p = q := by
  have hslash : ∀ {r : PathParts}, (∀ name ∈ r, LegalName name) →
      ∀ part ∈ r.map String.toList, '/' ∉ part := by
    intro r hr part hpart
    obtain ⟨name, hname, rfl⟩ := List.mem_map.mp hpart
    exact (hr name hname).2.2.2.1
  cases p with
  | nil => exact absurd rfl hp
  | cons a p =>
      cases q with
      | nil => exact absurd rfl hq
      | cons b q =>
          have hjoin := String.ofList_injective h
          have hmap := join_inj (List.cons_ne_nil _ _) (List.cons_ne_nil _ _) (hslash hlegalp)
            (hslash hlegalq) hjoin
          exact List.map_injective_iff.mpr (fun _ _ => String.toList_inj.mp) hmap

/-- The posix text of a path of legal names has no zero character. -/
theorem zero_notMem_asPosix {p : PathParts} (h : ∀ name ∈ p, LegalName name) :
    '\x00' ∉ (asPosix p).toList := by
  cases p with
  | nil => decide
  | cons a p =>
      rw [asPosix, String.toList_ofList]
      intro hmem
      rcases mem_join hmem with heq | ⟨part, hpart, hzero⟩
      · exact absurd heq (by decide)
      · obtain ⟨name, hname, rfl⟩ := List.mem_map.mp hpart
        exact (h name hname).2.2.2.2 hzero

section Order

variable {β : Type}

theorem perm_sortPaths (entries : List (PathParts × β)) : (sortPaths entries).Perm entries :=
  List.mergeSort_perm _ _

/-- Entries with distinct paths are sorted alike, in whatever order they come. -/
theorem sortPaths_perm {xs ys : List (PathParts × β)} (hnodup : (xs.map Prod.fst).Nodup)
    (h : xs.Perm ys) : sortPaths xs = sortPaths ys := by
  have hsorted : ∀ entries : List (PathParts × β),
      (sortPaths entries).Pairwise fun a b => decide (a.1 ≤ b.1) = true := fun entries =>
    List.pairwise_mergeSort (fun a b c hab hbc => by
      rw [decide_eq_true_eq] at hab hbc ⊢
      exact hab.trans hbc) (fun a b => by
      rw [Bool.or_eq_true, decide_eq_true_eq, decide_eq_true_eq]
      exact le_total a.1 b.1) entries
  have hperm : (sortPaths xs).Perm (sortPaths ys) :=
    (perm_sortPaths xs).trans (h.trans (perm_sortPaths ys).symm)
  refine List.Perm.eq_of_pairwise (fun a b ha hb hab hba => ?_) (hsorted xs) (hsorted ys) hperm
  rw [decide_eq_true_eq] at hab hba
  have hpath : a.1 = b.1 := le_antisymm hab hba
  have hax : a ∈ xs := (perm_sortPaths xs).mem_iff.mp ha
  have hbx : b ∈ xs := h.mem_iff.mpr ((perm_sortPaths ys).mem_iff.mp hb)
  exact List.inj_on_of_nodup_map hnodup hax hbx hpath

/-- Paths that start alike are sorted by what follows. -/
theorem sortPaths_map_append (directory : PathParts) (entries : List (PathParts × β)) :
    sortPaths (entries.map fun entry => (directory ++ entry.1, entry.2)) =
      (sortPaths entries).map fun entry => (directory ++ entry.1, entry.2) := by
  have hmono : StrictMono fun path : PathParts => directory ++ path :=
    fun _ _ hlt => List.append_left_lt hlt
  rw [sortPaths, sortPaths, List.map_mergeSort]
  intro a _ b _
  exact decide_eq_decide.mpr hmono.le_iff_le.symm

end Order

/-! ## Digests -/

/-- SHA-256. -/
structure Sha256 where
  digest : Contents → Contents
  length_digest : ∀ content, (digest content).length = 32

/-- `hexdigest`. -/
def hexdigest (bytes : Contents) : List Char :=
  bytes.flatMap fun b => [Json.hexDigit (b.toNat / 16), Json.hexDigit (b.toNat % 16)]

/-- `bytes.fromhex`: pairs of digits, with blanks before each. -/
def fromhex : List Char → Except Refusal Contents
  | [] => .ok []
  | c :: cs =>
      if c.toNat = 32 ∨ (9 ≤ c.toNat ∧ c.toNat ≤ 13) then fromhex cs
      else
        match cs with
        | [] => .error (.value "non-hexadecimal number found in fromhex() arg")
        | d :: cs =>
            match Json.hexValue c, Json.hexValue d with
            | some high, some low => do
                let rest ← fromhex cs
                return (16 * high + low).toUInt8 :: rest
            | _, _ => .error (.value "non-hexadecimal number found in fromhex() arg")

theorem hexValue_hexDigit : ∀ n < 16,
    Json.hexValue (Json.hexDigit n) = some n ∧
      ¬ ((Json.hexDigit n).toNat = 32 ∨
        (9 ≤ (Json.hexDigit n).toNat ∧ (Json.hexDigit n).toNat ≤ 13)) := by
  decide

/-- **The digits of a digest give the digest back.** -/
theorem fromhex_hexdigest (bytes : Contents) : fromhex (hexdigest bytes) = .ok bytes := by
  induction bytes with
  | nil => rfl
  | cons b bytes ih =>
      have hb := b.toNat_lt
      obtain ⟨hhigh, hblank⟩ := hexValue_hexDigit (b.toNat / 16) (by omega)
      obtain ⟨hlow, -⟩ := hexValue_hexDigit (b.toNat % 16) (by omega)
      have hvalue : (16 * (b.toNat / 16) + b.toNat % 16).toUInt8 = b := by
        rw [Nat.div_add_mod]
        exact UInt8.ofNat_toNat
      change fromhex (_ :: _ :: hexdigest bytes) = _
      rw [fromhex, if_neg hblank]
      simp only [hhigh, hlow, ih, hvalue]
      rfl

theorem hexdigest_inj {a b : Contents} (h : hexdigest a = hexdigest b) : a = b := by
  have hdecoded := fromhex_hexdigest a
  rw [h, fromhex_hexdigest] at hdecoded
  exact (Except.ok.inj hdecoded).symm

namespace Sha256

variable (sha : Sha256)

/-- `_sha256`, the digest of a file in hexadecimal. -/
def sha256 (content : Contents) : List Char := hexdigest (sha.digest content)

/-- The updates of `_directory_sha256`. -/
def updates (directory : PathParts) : List (PathParts × Contents) → Except Refusal Contents
  | [] => .ok []
  | (path, content) :: rest => do
      let relative := asPosix (relativeTo directory path)
      let field ← fromhex (sha.sha256 content)
      let after ← updates directory rest
      return utf8 relative ++ [0] ++ field ++ after

/-- `_directory_sha256`. -/
def directorySha256 (directory : PathParts) (t : FileTree) : Except Refusal (List Char) := do
  let found := (t.listing.walk directory).filterMap fun item =>
    item.2.map fun content => (item.1, content)
  let digest ← sha.updates directory (sortPaths found)
  return hexdigest (sha.digest digest)

/-- The record of a file: its path and its digest. -/
def record (entry : PathParts × Contents) : Contents × Contents :=
  (utf8 (asPosix entry.1), sha.digest entry.2)

/-- The string whose digest is the hash of the tree. -/
def stream (t : FileTree) : Contents :=
  ((sortPaths t.files).map sha.record).flatMap (frame 0)

theorem updates_map (directory : PathParts) (entries : List (PathParts × Contents)) :
    sha.updates directory (entries.map fun entry => (directory ++ entry.1, entry.2)) =
      .ok ((entries.map sha.record).flatMap (frame 0)) := by
  induction entries with
  | nil => rfl
  | cons entry entries ih =>
      have hrelative : relativeTo directory (directory ++ entry.1) = entry.1 :=
        List.drop_left
      rw [List.map_cons, updates, hrelative, sha256, fromhex_hexdigest, ih, List.map_cons,
        List.flatMap_cons, frame, record]
      simp only [List.append_assoc, List.cons_append, List.nil_append]
      rfl

/-- The tree hash is the digest of the stream, wherever the tree lies. -/
theorem directorySha256_eq (directory : PathParts) (t : FileTree) :
    sha.directorySha256 directory t = .ok (hexdigest (sha.digest (sha.stream t))) := by
  rw [directorySha256, Listing.filterMap_walk, Listing.files_eq_map, sortPaths_map_append,
    updates_map]
  rfl

/-- SHA-256 does not collide on the strings that the hashes of two trees are made from. -/
def NoCollision (t t' : FileTree) : Prop :=
  ∀ a ∈ sha.stream t :: t.files.map Prod.snd, ∀ b ∈ sha.stream t' :: t'.files.map Prod.snd,
    sha.digest a = sha.digest b → a = b

/-- The records of a tree are well separated. -/
theorem record_framed {t : FileTree} {found : Contents × Contents}
    (h : found ∈ (sortPaths t.files).map sha.record) : 0 ∉ found.1 ∧ found.2.length = 32 := by
  obtain ⟨entry, hentry, rfl⟩ := List.mem_map.mp h
  have hmem : entry ∈ t.files := (perm_sortPaths _).mem_iff.mp hentry
  exact ⟨zero_notMem_utf8 (zero_notMem_asPosix (FileTree.legal_of_mem hmem)),
    sha.length_digest _⟩

/-- Trees with the same files have the same stream. -/
theorem stream_congr {t t' : FileTree} (h : t.SameFiles t') : sha.stream t = sha.stream t' := by
  have hsorted : sortPaths t.files = sortPaths t'.files :=
    sortPaths_perm (Listing.nodup_paths t.distinct) h.perm
  rw [stream, stream, hsorted]

/-- Each file of a tree is a file of a tree with the same stream. -/
theorem mem_of_stream_eq {t t' : FileTree} (hc : sha.NoCollision t t')
    (h : sha.stream t = sha.stream t') {entry : PathParts × Contents} (hentry : entry ∈ t.files) :
    entry ∈ t'.files := by
  have hrecords := flatMap_frame_inj (fun _ => sha.record_framed) (fun _ => sha.record_framed) h
  have hmem : sha.record entry ∈ (sortPaths t'.files).map sha.record :=
    hrecords ▸ List.mem_map_of_mem ((perm_sortPaths _).mem_iff.mpr hentry)
  obtain ⟨found, hfound, heq⟩ := List.mem_map.mp hmem
  have hfound : found ∈ t'.files := (perm_sortPaths _).mem_iff.mp hfound
  obtain ⟨hname, hdigest⟩ := Prod.mk.inj heq
  have hpath : found.1 = entry.1 :=
    asPosix_inj (FileTree.ne_nil_of_mem hfound) (FileTree.ne_nil_of_mem hentry)
      (FileTree.legal_of_mem hfound) (FileTree.legal_of_mem hentry) (utf8_inj hname)
  have hcontent : entry.2 = found.2 :=
    hc _ (List.mem_cons_of_mem _ (List.mem_map_of_mem hentry)) _
      (List.mem_cons_of_mem _ (List.mem_map_of_mem hfound)) hdigest.symm
  exact Prod.ext hpath hcontent.symm ▸ hfound

/-- **A tree hash stands for one set of paths with contents.** -/
theorem directory_sha256_inj {t t' : FileTree} (hc : sha.NoCollision t t')
    (directory directory' : PathParts)
    (h : sha.directorySha256 directory t = sha.directorySha256 directory' t') :
    t.SameFiles t' := by
  rw [directorySha256_eq, directorySha256_eq] at h
  have hstream : sha.stream t = sha.stream t' :=
    hc _ List.mem_cons_self _ List.mem_cons_self (hexdigest_inj (Except.ok.inj h))
  have hc' : sha.NoCollision t' t := fun a ha b hb heq => (hc b hb a ha heq.symm).symm
  exact fun path content =>
    ⟨sha.mem_of_stream_eq hc hstream, sha.mem_of_stream_eq hc' hstream.symm⟩

end Sha256

/-- The digests of two one-byte contents and of the streams of two trees with a file `d/f`. -/
def sampleDigest (content : Contents) : Contents :=
  if content = [1] then
    [75, 245, 18, 47, 52, 69, 84, 197, 59, 222, 46, 187, 140, 210, 183, 227, 209, 96, 10, 214,
     49, 195, 133, 165, 215, 204, 226, 60, 119, 133, 69, 154]
  else if content = [2] then
    [219, 193, 180, 201, 0, 255, 228, 141, 87, 91, 93, 165, 198, 56, 4, 1, 37, 246, 93, 176, 254,
     62, 36, 73, 75, 118, 234, 152, 100, 87, 217, 134]
  else if content.take 5 = [100, 47, 102, 0, 75] then
    [217, 151, 101, 17, 214, 209, 152, 212, 189, 191, 41, 168, 97, 135, 82, 42, 157, 37, 24, 117,
     45, 213, 199, 22, 52, 157, 241, 14, 171, 185, 32, 193]
  else if content.take 5 = [100, 47, 102, 0, 219] then
    [142, 109, 24, 150, 37, 233, 15, 85, 197, 66, 108, 100, 232, 97, 157, 54, 14, 26, 143, 134,
     28, 224, 80, 229, 255, 163, 102, 71, 32, 212, 181, 102]
  else List.replicate 32 0

def sampleSha : Sha256 where
  digest := sampleDigest
  length_digest := fun content => by
    unfold sampleDigest
    split_ifs <;> rfl

end NetStrike.Scripts
