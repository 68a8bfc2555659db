import NetStrike.Foundation.JsonLines
import NetStrike.Scripts.SafePaths

/-!
# The checksum list of a bundle

`_write_checksums` and `_verify_checksums` of `scripts/offline_bundle.py`. The list is a text of one
line for each file, `<digest>  <path>`; it is read back with `str.splitlines`.

Both functions leave out every file that is named `SHA256SUMS`, at any depth, and a path may hold a
character at which `splitlines` breaks. `checksums_cover_iff` says exactly which later changes of
which trees are noticed.
-/

set_option autoImplicit false

namespace NetStrike.Scripts

open NetStrike.Foundation NetStrike.Foundation.Checked

/-- `CHECKSUMS_NAME`. -/
def checksumsName : String := "SHA256SUMS"

/-! ## Text files -/

/-- The characters at which `str.splitlines` breaks. -/
def lineBreak (c : Char) : Bool :=
  let n := c.toNat
  (10 ≤ n && n ≤ 13) || (28 ≤ n && n ≤ 30) || n == 0x85 || n == 0x2028 || n == 0x2029

/-- `str.splitlines`. -/
def splitlines : List Char → List (List Char)
  | [] => []
  | '\r' :: '\n' :: cs => [] :: splitlines cs
  | c :: cs =>
      if lineBreak c = true then [] :: splitlines cs
      else
        match splitlines cs with
        | [] => [[c]]
        | line :: lines => (c :: line) :: lines

/-- `line.split("  ", 1)`, which has to give two parts. -/
def splitOnce : List Char → Option (List Char × List Char)
  | [] => none
  | ' ' :: ' ' :: rest => some ([], rest)
  | c :: cs => (splitOnce cs).map fun parts => (c :: parts.1, parts.2)

/-- The text of a UTF-8 file. -/
def decode (content : Contents) : Except Refusal (List Char) :=
  match ByteArray.utf8Decode? ⟨content.toArray⟩ with
  | some text => .ok text.toList
  | none => .error .unicode

/-- `re.fullmatch(r"[0-9a-f]{64}", checksum)`. -/
def IsChecksum (checksum : List Char) : Prop :=
  checksum.length = 64 ∧ ∀ c ∈ checksum, ('0' ≤ c ∧ c ≤ '9') ∨ ('a' ≤ c ∧ c ≤ 'f')

instance (checksum : List Char) : Decidable (IsChecksum checksum) :=
  inferInstanceAs (Decidable (_ ∧ _))

/-! ## Writer and verifier -/

/-- The files that a walk of `root` finds under another name than `SHA256SUMS`, with their relative
paths. -/
def covered (root : PathParts) (items : List (PathParts × Option Contents)) :
    List (PathParts × Contents) :=
  items.filterMap fun item =>
    match item.2 with
    | some content =>
        if item.1.getLast? ≠ some checksumsName then some (relativeTo root item.1, content)
        else none
    | none => none

namespace Sha256

variable (sha : Sha256)

/-- The line of a file. -/
def line (entry : PathParts × Contents) : List Char :=
  sha.sha256 entry.2 ++ ' ' :: ' ' :: (asPosix entry.1).toList

/-- The text that `_write_checksums` writes. -/
def checksumText (root : PathParts) (t : FileTree) : List Char :=
  join '\n' ((covered root (sortPaths (t.listing.walk root))).map sha.line) ++ ['\n']

end Sha256

/-- Write a file into the root of a tree. -/
def FileTree.write (t : FileTree) (name : String) (content : Contents) (hname : LegalName name) :
    Except Refusal FileTree :=
  match h : t.listing.put name content with
  | some listing => .ok ⟨listing, t.distinct.put h, t.legal.put hname h⟩
  | none => .error .isADirectory

theorem legalName_checksumsName : LegalName checksumsName := by decide

namespace Sha256

variable (sha : Sha256)

/-- `_write_checksums`. -/
def writeChecksums (root : PathParts) (t : FileTree) : Except Refusal FileTree :=
  t.write checksumsName (utf8 (String.ofList (sha.checksumText root t))) legalName_checksumsName

/-- The loop over the lines; `expected` are the paths read so far. -/
def verifyLines (t : FileTree) : List (List Char) → List String → Except Refusal (List String)
  | [], expected => .ok expected
  | line :: lines, expected =>
      match splitOnce line with
      | none => .error (.value ("invalid checksum entry: " ++ String.ofList line))
      | some (checksum, relativeText) => do
          let relative := String.ofList relativeText
          let safePath ← safeRelativePath relative
          require (IsChecksum checksum) (.value ("invalid SHA-256 value for " ++ relative))
          require (relative ∉ expected) (.value ("duplicate checksum entry: " ++ relative))
          require ((t.listing.read safePath).map sha.sha256 = some checksum)
            (.value ("checksum mismatch or missing file: " ++ relative))
          verifyLines t lines (expected ++ [relative])

/-- The paths that are to be listed. -/
def actual (root : PathParts) (t : FileTree) : List String :=
  (covered root (t.listing.walk root)).map fun entry => asPosix entry.1

/-- `_verify_checksums`. -/
def verifyChecksums (root : PathParts) (t : FileTree) : Except Refusal Unit :=
  match t.listing.read [checksumsName] with
  | none => .error (.value "missing SHA256SUMS")
  | some content => do
      let text ← decode content
      let expected ← sha.verifyLines t (splitlines (universal text)) []
      require ((∀ path ∈ actual root t, path ∈ expected) ∧ ∀ path ∈ expected, path ∈ actual root t)
        (.value "checksum list does not cover exactly the bundle files")

end Sha256

-- The readers of the list, which the lemmas below take apart line by line.
attribute [local simp] splitlines splitOnce Sha256.verifyLines

/-! ## Lines -/

/-- One character, unless it starts a carriage return with its line feed. -/
theorem splitlines_cons {c : Char} {cs : List Char}
    (h : ∀ rest, c = '\r' → cs = '\n' :: rest → False) :
    splitlines (c :: cs) =
      if lineBreak c = true then [] :: splitlines cs
      else
        match splitlines cs with
        | [] => [[c]]
        | line :: lines => (c :: line) :: lines := by
  rw [splitlines]
  exact h

theorem splitlines_append {line : List Char} (h : ∀ c ∈ line, lineBreak c = false)
    (rest : List Char) : splitlines (line ++ '\n' :: rest) = line :: splitlines rest := by
  induction line with
  | nil =>
      have hbreak : lineBreak '\n' = true := by decide
      rw [List.nil_append, splitlines_cons (fun _ hr => absurd hr (by decide)), if_pos hbreak]
  | cons c line ih =>
      rw [List.forall_mem_cons] at h
      have hreturn : c ≠ '\r' := fun heq => absurd h.1 (by rw [heq]; decide)
      rw [List.cons_append, splitlines_cons (fun _ heq => absurd heq hreturn),
        if_neg (by rw [h.1]; decide), ih h.2]

/-- The text of a list of lines is split into them. -/
theorem splitlines_join {lines : List (List Char)} (hne : lines ≠ [])
    (h : ∀ line ∈ lines, ∀ c ∈ line, lineBreak c = false) :
    splitlines (join '\n' lines ++ ['\n']) = lines := by
  induction lines with
  | nil => exact absurd rfl hne
  | cons line lines ih =>
      rw [List.forall_mem_cons] at h
      cases lines with
      | nil =>
          rw [join, splitlines_append h.1]
          rfl
      | cons next lines =>
          rw [join, List.append_assoc, List.cons_append, splitlines_append h.1,
            ih (List.cons_ne_nil _ _) h.2]

/-- No line holds a line break. -/
theorem lineBreak_of_mem_splitlines {text line : List Char} (h : line ∈ splitlines text) :
    ∀ c ∈ line, lineBreak c = false := by
  induction text using splitlines.induct generalizing line with
  | case1 => exact nomatch h
  | case2 cs ih =>
      rw [splitlines] at h
      rcases List.mem_cons.mp h with rfl | h
      · exact fun c hc => nomatch hc
      · exact ih h
  | case3 c cs hreturn hbreak ih =>
      rw [splitlines_cons hreturn, if_pos hbreak] at h
      rcases List.mem_cons.mp h with rfl | h
      · exact fun c hc => nomatch hc
      · exact ih h
  | case4 c cs hreturn hbreak heq ih =>
      rw [splitlines_cons hreturn, if_neg hbreak, heq] at h
      rw [List.mem_singleton.mp h]
      exact List.forall_mem_singleton.mpr (Bool.eq_false_iff.mpr hbreak)
  | case5 c cs hreturn hbreak first rest heq ih =>
      rw [splitlines_cons hreturn, if_neg hbreak, heq] at h
      rw [heq] at ih
      rcases List.mem_cons.mp h with rfl | h
      · exact List.forall_mem_cons.mpr ⟨Bool.eq_false_iff.mpr hbreak, ih List.mem_cons_self⟩
      · exact ih (List.mem_cons_of_mem _ h)

/-- The first pair of blanks parts a line whose first word has no blank. -/
theorem splitOnce_append {word : List Char} (h : ' ' ∉ word) (rest : List Char) :
    splitOnce (word ++ ' ' :: ' ' :: rest) = some (word, rest) := by
  induction word with
  | nil => rfl
  | cons c word ih =>
      rw [List.mem_cons, not_or] at h
      rw [List.cons_append, splitOnce, ih h.2]
      · rfl
      · exact fun _ heq => absurd heq.symm h.1

theorem subset_of_splitOnce {line word rest : List Char} (h : splitOnce line = some (word, rest)) :
    rest ⊆ line := by
  induction line using splitOnce.induct generalizing word rest with
  | case1 => cases h
  | case2 rest =>
      rw [splitOnce] at h
      obtain ⟨rfl, rfl⟩ := Prod.mk.inj (Option.some.inj h)
      exact fun c hc => List.mem_cons_of_mem _ (List.mem_cons_of_mem _ hc)
  | case3 c cs hblank ih =>
      rw [splitOnce] at h
      · obtain ⟨⟨first, second⟩, hparts, heq⟩ := Option.map_eq_some_iff.mp h
        obtain ⟨rfl, rfl⟩ := Prod.mk.inj heq
        exact fun d hd => List.mem_cons_of_mem _ (ih hparts hd)
      · exact hblank

/-- What was written as a text is read as this text. -/
theorem decode_utf8 (text : List Char) : decode (utf8 (String.ofList text)) = .ok text := by
  have hbytes : (⟨(utf8 (String.ofList text)).toArray⟩ : ByteArray) = text.utf8Encode := by
    rw [utf8, Array.toArray_toList, String.toByteArray_ofList]
  rw [decode, hbytes, List.utf8Decode?_utf8Encode]

theorem isChecksum_hexDigit : ∀ n < 16,
    ('0' ≤ Json.hexDigit n ∧ Json.hexDigit n ≤ '9') ∨
      ('a' ≤ Json.hexDigit n ∧ Json.hexDigit n ≤ 'f') := by
  decide

/-- A hexadecimal digit is no line break. -/
theorem lineBreak_hex {c : Char} (h : ('0' ≤ c ∧ c ≤ '9') ∨ ('a' ≤ c ∧ c ≤ 'f')) :
    lineBreak c = false := by
  have hrange : (48 ≤ c.toNat ∧ c.toNat ≤ 57) ∨ (97 ≤ c.toNat ∧ c.toNat ≤ 102) := h
  have hvalues : ∀ n < 103, 48 ≤ n → lineBreak (Char.ofNat n) = false := by decide
  rw [← Char.ofNat_toNat c]
  exact hvalues _ (by omega) (by omega)

namespace Sha256

variable (sha : Sha256)

/-- A digest is written as a checksum. -/
theorem isChecksum_sha256 (content : Contents) : IsChecksum (sha.sha256 content) := by
  have hlength : ∀ bytes : Contents, (hexdigest bytes).length = 2 * bytes.length := by
    intro bytes
    induction bytes with
    | nil => rfl
    | cons b bytes ih =>
        change (hexdigest bytes).length + 1 + 1 = _
        rw [ih, List.length_cons]
        omega
  refine ⟨by rw [sha256, hlength, sha.length_digest], fun c hc => ?_⟩
  obtain ⟨b, -, hc⟩ := List.mem_flatMap.mp hc
  have hb := b.toNat_lt
  rw [List.mem_cons, List.mem_singleton] at hc
  rcases hc with rfl | rfl
  · exact isChecksum_hexDigit _ (by omega)
  · exact isChecksum_hexDigit _ (by omega)

theorem sha256_inj {a b : Contents} (h : sha.sha256 a = sha.sha256 b) :
    sha.digest a = sha.digest b := hexdigest_inj h

end Sha256

/-! ## The files that are listed -/

/-- The files of a tree that are not named `SHA256SUMS`. -/
def FileTree.coveredFiles (t : FileTree) : List (PathParts × Contents) :=
  t.files.filter fun entry => entry.1.getLast? ≠ some checksumsName

theorem FileTree.mem_coveredFiles {t : FileTree} {path : PathParts} {content : Contents} :
    (path, content) ∈ t.coveredFiles ↔
      t.listing.read path = some content ∧ path.getLast? ≠ some checksumsName := by
  rw [coveredFiles, List.mem_filter, files, Listing.mem_files_iff t.distinct, decide_eq_true_eq]

/-- What a walk covers is the covered files. -/
theorem covered_walk (root : PathParts) (t : FileTree) :
    covered root (t.listing.walk root) = t.coveredFiles := by
  have hstages : ∀ items : List (PathParts × Option Contents), covered root items =
      (items.filterMap fun entry => entry.2.map fun content => (entry.1, content)).filterMap
        fun entry =>
          if entry.1.getLast? ≠ some checksumsName then some (relativeTo root entry.1, entry.2)
          else none := by
    intro items
    rw [List.filterMap_filterMap]
    refine List.filterMap_congr fun item _ => ?_
    obtain ⟨path, found⟩ := item
    cases found <;> rfl
  rw [hstages, Listing.filterMap_walk, Listing.files_eq_map, List.filterMap_map,
    FileTree.coveredFiles, ← List.filterMap_eq_filter]
  refine List.filterMap_congr fun entry hentry => ?_
  have hlast : (root ++ entry.1).getLast? = entry.1.getLast? := by
    rw [List.getLast?_append, List.getLast?_eq_some_getLast (FileTree.ne_nil_of_mem hentry),
      Option.some_or]
  have hrelative : relativeTo root (root ++ entry.1) = entry.1 := List.drop_left
  simp only [Function.comp_apply, hlast, hrelative, Option.guard, decide_eq_true_eq]

/-- The files that the writer lists are the covered files. -/
theorem perm_covered (root : PathParts) (t : FileTree) :
    (covered root (sortPaths (t.listing.walk root))).Perm t.coveredFiles := by
  rw [← covered_walk root t]
  exact (perm_sortPaths _).filterMap _

namespace FileTree

theorem mem_files_of_covered {t : FileTree} {entry : PathParts × Contents}
    (h : entry ∈ t.coveredFiles) : entry ∈ t.files := (List.mem_filter.mp h).1

/-- No path is listed twice. -/
theorem nodup_posix {t : FileTree} {entries : List (PathParts × Contents)}
    (hperm : entries.Perm t.coveredFiles) :
    (entries.map fun entry => asPosix entry.1).Nodup := by
  have hnodup : entries.Nodup := hperm.nodup_iff.mpr (t.nodup_files.filter _)
  refine hnodup.map_on fun a ha b hb heq => ?_
  have ha := mem_files_of_covered (hperm.mem_iff.mp ha)
  have hb := mem_files_of_covered (hperm.mem_iff.mp hb)
  have hpath : a.1 = b.1 := asPosix_inj (ne_nil_of_mem ha) (ne_nil_of_mem hb)
    (legal_of_mem ha) (legal_of_mem hb) heq
  obtain ⟨path, content⟩ := a
  obtain ⟨path', content'⟩ := b
  obtain rfl : path = path' := hpath
  rw [Listing.files_unique t.distinct ha hb]

/-- The names of the files are ones that `_safe_relative_path` accepts. -/
def SafeNames (t : FileTree) : Prop :=
  ∀ entry ∈ t.files, ∃ path, safeRelativePath (asPosix entry.1) = .ok path

theorem SafeNames.safe {t : FileTree} (ht : t.SafeNames) {entry : PathParts × Contents}
    (h : entry ∈ t.files) : safeRelativePath (asPosix entry.1) = .ok entry.1 := by
  obtain ⟨path, hpath⟩ := ht entry h
  rw [hpath, safeRelativePath_asPosix (ne_nil_of_mem h) (legal_of_mem h) hpath]

/-- No listed path holds a line break. -/
def Unbroken (t : FileTree) : Prop :=
  ∀ entry ∈ t.coveredFiles, ∀ c ∈ (asPosix entry.1).toList, lineBreak c = false

/-- The same contents under the same paths, apart from files named `SHA256SUMS`. -/
def SameCovered (t t' : FileTree) : Prop :=
  ∀ path content, (path, content) ∈ t.coveredFiles ↔ (path, content) ∈ t'.coveredFiles

theorem sameCovered_iff {t t' : FileTree} :
    t.SameCovered t' ↔ ∀ path : PathParts, path.getLast? ≠ some checksumsName →
      t.listing.read path = t'.listing.read path := by
  constructor
  · intro h path hpath
    refine Option.ext fun content => ?_
    have hmem := h path content
    rw [mem_coveredFiles, mem_coveredFiles] at hmem
    exact ⟨fun hread => (hmem.mp ⟨hread, hpath⟩).1, fun hread => (hmem.mpr ⟨hread, hpath⟩).1⟩
  · intro h path content
    rw [mem_coveredFiles, mem_coveredFiles]
    exact and_congr_left fun hpath => by rw [h path hpath]

end FileTree

/-! ## What the verifier accepts -/

namespace Sha256

variable (sha : Sha256)

theorem space_notMem_sha256 (content : Contents) : ' ' ∉ sha.sha256 content := fun hmem =>
  absurd ((sha.isChecksum_sha256 content).2 ' ' hmem) (by decide)

/-- The line of a file with a new, safe path: what is left to check is the digest. -/
theorem verifyLines_cons {t : FileTree} {entry : PathParts × Contents} {expected : List String}
    (lines : List (List Char)) (hsafe : safeRelativePath (asPosix entry.1) = .ok entry.1)
    (hnew : asPosix entry.1 ∉ expected) :
    sha.verifyLines t (sha.line entry :: lines) expected =
      (require ((t.listing.read entry.1).map sha.sha256 = some (sha.sha256 entry.2))
          (.value ("checksum mismatch or missing file: " ++ asPosix entry.1)) >>=
        fun _ => sha.verifyLines t lines (expected ++ [asPosix entry.1])) := by
  have hsplit : splitOnce (sha.line entry) =
      some (sha.sha256 entry.2, (asPosix entry.1).toList) :=
    splitOnce_append (sha.space_notMem_sha256 entry.2) _
  rw [verifyLines, hsplit]
  simp only [String.ofList_toList]
  rw [bind_of_eq_ok hsafe, bind_of_eq_ok (require_of (sha.isChecksum_sha256 entry.2)),
    bind_of_eq_ok (require_of hnew)]

/-- **The written lines** are accepted exactly when every listed file is there with the listed
digest. -/
theorem verifyLines_eq_ok_iff {t : FileTree} {entries : List (PathParts × Contents)}
    {expected found : List String}
    (hsafe : ∀ entry ∈ entries, safeRelativePath (asPosix entry.1) = .ok entry.1)
    (hnodup : (expected ++ entries.map fun entry => asPosix entry.1).Nodup) :
    sha.verifyLines t (entries.map sha.line) expected = .ok found ↔
      (∀ entry ∈ entries,
        (t.listing.read entry.1).map sha.sha256 = some (sha.sha256 entry.2)) ∧
      found = expected ++ entries.map fun entry => asPosix entry.1 := by
  induction entries generalizing expected with
  | nil =>
      rw [List.map_nil, List.map_nil, verifyLines, List.append_nil]
      constructor
      · exact fun h => ⟨fun _ hentry => (nomatch hentry), (Except.ok.inj h).symm⟩
      · exact fun h => congrArg Except.ok h.2.symm
  | cons entry entries ih =>
      rw [List.forall_mem_cons] at hsafe
      have hnew : asPosix entry.1 ∉ expected := fun hmem =>
        (List.disjoint_of_nodup_append hnodup) hmem List.mem_cons_self
      rw [List.map_cons, List.append_cons] at hnodup
      have hrest := ih hsafe.2 hnodup
      rw [List.map_cons, sha.verifyLines_cons _ hsafe.1 hnew, List.forall_mem_cons, List.map_cons,
        List.append_cons expected (asPosix entry.1) (entries.map _), and_assoc]
      constructor
      · intro h
        obtain ⟨_, hdigest, h⟩ := bind_eq_ok h
        exact ⟨require_eq_ok hdigest, hrest.mp h⟩
      · rintro ⟨hdigest, h⟩
        rw [bind_of_eq_ok (require_of hdigest)]
        exact hrest.mpr h

/-- An accepted path stood on one line. -/
theorem lineBreak_of_verifyLines {t : FileTree} {lines : List (List Char)}
    {expected found : List String} (h : sha.verifyLines t lines expected = .ok found)
    (hlines : ∀ line ∈ lines, ∀ c ∈ line, lineBreak c = false)
    (hexpected : ∀ path ∈ expected, ∀ c ∈ path.toList, lineBreak c = false) :
    ∀ path ∈ found, ∀ c ∈ path.toList, lineBreak c = false := by
  induction lines generalizing expected with
  | nil => rwa [← Except.ok.inj h]
  | cons line lines ih =>
      rw [List.forall_mem_cons] at hlines
      rw [verifyLines] at h
      split at h
      · cases h
      · next checksum relative hsplit =>
          obtain ⟨_, -, h⟩ := bind_eq_ok h
          obtain ⟨_, -, h⟩ := bind_eq_ok h
          obtain ⟨_, -, h⟩ := bind_eq_ok h
          obtain ⟨_, -, h⟩ := bind_eq_ok h
          refine ih h hlines.2 fun path hpath => ?_
          rcases List.mem_append.mp hpath with hpath | hpath
          · exact hexpected path hpath
          · rw [List.mem_singleton.mp hpath, String.toList_ofList]
            exact fun c hc => hlines.1 c (subset_of_splitOnce hsplit hc)

/-- SHA-256 does not collide on the contents of the covered files of two trees. -/
def NoContentCollision (t t' : FileTree) : Prop :=
  ∀ a ∈ t.coveredFiles.map Prod.snd, ∀ b ∈ t'.coveredFiles.map Prod.snd,
    sha.digest a = sha.digest b → a = b

section Written

variable {root root' : PathParts} {t t' : FileTree}

/-- The written list, read back. -/
theorem verifyChecksums_written
    (hwritten : t'.listing.read [checksumsName] =
      some (utf8 (String.ofList (sha.checksumText root t)))) :
    sha.verifyChecksums root' t' =
      (sha.verifyLines t' (splitlines (universal (sha.checksumText root t))) [] >>= fun expected =>
        require ((∀ path ∈ actual root' t', path ∈ expected) ∧
            ∀ path ∈ expected, path ∈ actual root' t')
          (.value "checksum list does not cover exactly the bundle files")) := by
  rw [verifyChecksums, hwritten]
  exact bind_of_eq_ok (decode_utf8 _)

/-- Without line breaks in paths the list has one line for each file. -/
theorem splitlines_checksumText (hne : t.coveredFiles ≠ []) (hun : t.Unbroken) :
    splitlines (universal (sha.checksumText root t)) =
      (covered root (sortPaths (t.listing.walk root))).map sha.line := by
  have hperm := perm_covered root t
  have hlines : ∀ line ∈ (covered root (sortPaths (t.listing.walk root))).map sha.line,
      ∀ c ∈ line, lineBreak c = false := by
    intro line hline c hc
    obtain ⟨entry, hentry, rfl⟩ := List.mem_map.mp hline
    rcases List.mem_append.mp hc with hc | hc
    · exact lineBreak_hex ((sha.isChecksum_sha256 entry.2).2 c hc)
    · rcases List.mem_cons.mp hc with rfl | hc
      · decide
      · rcases List.mem_cons.mp hc with rfl | hc
        · decide
        · exact hun entry (hperm.mem_iff.mp hentry) c hc
  have hreturn : '\r' ∉ sha.checksumText root t := by
    intro hmem
    rcases List.mem_append.mp hmem with hmem | hmem
    · rcases mem_join hmem with heq | ⟨line, hline, hc⟩
      · exact absurd heq (by decide)
      · exact absurd (hlines line hline _ hc) (by decide)
    · exact absurd (List.mem_singleton.mp hmem) (by decide)
  rw [universal_eq_self hreturn, checksumText, splitlines_join _ hlines]
  rw [ne_eq, List.map_eq_nil_iff]
  exact fun hnil => hne (List.perm_nil.mp (hnil ▸ hperm.symm))

/-- **The list in a later state of the tree** is accepted exactly when no covered file has changed. -/
theorem verifyChecksums_iff (hne : t.coveredFiles ≠ []) (hun : t.Unbroken) (hsafe : t.SafeNames)
    (hwritten : t'.listing.read [checksumsName] =
      some (utf8 (String.ofList (sha.checksumText root t)))) :
    sha.verifyChecksums root' t' = .ok () ↔
      (∀ entry ∈ t.coveredFiles,
        (t'.listing.read entry.1).map sha.sha256 = some (sha.sha256 entry.2)) ∧
      ∀ entry ∈ t'.coveredFiles, ∃ listed ∈ t.coveredFiles, listed.1 = entry.1 := by
  have hperm := perm_covered root t
  have hfiles : ∀ entry ∈ covered root (sortPaths (t.listing.walk root)), entry ∈ t.files :=
    fun entry hentry => FileTree.mem_files_of_covered (hperm.mem_iff.mp hentry)
  have hnodup := FileTree.nodup_posix hperm
  rw [sha.verifyChecksums_written hwritten, sha.splitlines_checksumText hne hun]
  constructor
  · intro h
    obtain ⟨expected, hlines, h⟩ := bind_eq_ok h
    have hsame := require_eq_ok h
    obtain ⟨hdigests, rfl⟩ := (sha.verifyLines_eq_ok_iff
      (fun entry hentry => hsafe.safe (hfiles entry hentry)) hnodup).mp hlines
    refine ⟨fun entry hentry => hdigests entry (hperm.mem_iff.mpr hentry), fun entry hentry => ?_⟩
    have hactual : asPosix entry.1 ∈ actual root' t' :=
      List.mem_map.mpr ⟨entry, by rwa [covered_walk], rfl⟩
    obtain ⟨listed, hlisted, heq⟩ := List.mem_map.mp (hsame.1 _ hactual)
    have hin := hfiles listed hlisted
    have hentry := FileTree.mem_files_of_covered hentry
    exact ⟨listed, hperm.mem_iff.mp hlisted,
      asPosix_inj (FileTree.ne_nil_of_mem hin) (FileTree.ne_nil_of_mem hentry)
        (FileTree.legal_of_mem hin) (FileTree.legal_of_mem hentry) heq⟩
  · rintro ⟨hdigests, hlisted⟩
    rw [bind_of_eq_ok ((sha.verifyLines_eq_ok_iff
      (fun entry hentry => hsafe.safe (hfiles entry hentry)) hnodup).mpr
        ⟨fun entry hentry => hdigests entry (hperm.mem_iff.mp hentry), rfl⟩)]
    refine require_of ⟨fun path hpath => ?_, fun path hpath => ?_⟩
    · obtain ⟨entry, hentry, rfl⟩ := List.mem_map.mp hpath
      rw [covered_walk] at hentry
      obtain ⟨listed, hmem, heq⟩ := hlisted entry hentry
      exact List.mem_map.mpr ⟨listed, hperm.mem_iff.mpr hmem, by rw [heq]⟩
    · obtain ⟨listed, hmem, rfl⟩ := List.mem_map.mp hpath
      have hmem := hperm.mem_iff.mp hmem
      obtain ⟨content, hread, -⟩ := Option.map_eq_some_iff.mp (hdigests listed hmem)
      have hlast := (FileTree.mem_coveredFiles.mp hmem).2
      refine List.mem_map.mpr ⟨(listed.1, content), ?_, rfl⟩
      rw [covered_walk]
      exact FileTree.mem_coveredFiles.mpr ⟨hread, hlast⟩

/-- The list that was just written is accepted, if no path breaks a line. -/
theorem verifyChecksums_of_sameCovered (hne : t.coveredFiles ≠ []) (hun : t.Unbroken)
    (hsafe : t.SafeNames)
    (hwritten : t'.listing.read [checksumsName] =
      some (utf8 (String.ofList (sha.checksumText root t)))) (hsame : t.SameCovered t') :
    sha.verifyChecksums root' t' = .ok () := by
  refine (sha.verifyChecksums_iff hne hun hsafe hwritten).mpr
    ⟨fun entry hentry => ?_, fun entry hentry => ?_⟩
  · rw [(FileTree.mem_coveredFiles.mp ((hsame entry.1 entry.2).mp hentry)).1]
    rfl
  · exact ⟨entry, (hsame entry.1 entry.2).mpr hentry, rfl⟩

/-- An accepted list belongs to the covered files that were listed. -/
theorem sameCovered_of_verifyChecksums (hc : sha.NoContentCollision t t')
    (hne : t.coveredFiles ≠ []) (hun : t.Unbroken) (hsafe : t.SafeNames)
    (hwritten : t'.listing.read [checksumsName] =
      some (utf8 (String.ofList (sha.checksumText root t))))
    (h : sha.verifyChecksums root' t' = .ok ()) : t.SameCovered t' := by
  obtain ⟨hdigests, hlisted⟩ := (sha.verifyChecksums_iff hne hun hsafe hwritten).mp h
  have hread : ∀ entry ∈ t.coveredFiles, t'.listing.read entry.1 = some entry.2 := by
    intro entry hentry
    obtain ⟨content, hread, hdigest⟩ := Option.map_eq_some_iff.mp (hdigests entry hentry)
    have hmem : (entry.1, content) ∈ t'.coveredFiles :=
      FileTree.mem_coveredFiles.mpr ⟨hread, (FileTree.mem_coveredFiles.mp hentry).2⟩
    rw [hread, hc entry.2 (List.mem_map_of_mem hentry) content (List.mem_map_of_mem hmem)
      (sha.sha256_inj hdigest.symm)]
  intro path content
  constructor
  · intro hmem
    exact FileTree.mem_coveredFiles.mpr
      ⟨hread _ hmem, (FileTree.mem_coveredFiles.mp hmem).2⟩
  · intro hmem
    obtain ⟨listed, hlist, hpath⟩ := hlisted _ hmem
    obtain rfl : listed.1 = path := hpath
    have hsome := (hread listed hlist).symm.trans (FileTree.mem_coveredFiles.mp hmem).1
    rw [← Option.some.inj hsome]
    exact hlist

/-- A list that is accepted lists some file, and no listed path breaks a line. -/
theorem unbroken_of_verifyChecksums
    (hwritten : t'.listing.read [checksumsName] =
      some (utf8 (String.ofList (sha.checksumText root t)))) (hsame : t.SameCovered t')
    (h : sha.verifyChecksums root' t' = .ok ()) : t.coveredFiles ≠ [] ∧ t.Unbroken := by
  rw [sha.verifyChecksums_written hwritten] at h
  obtain ⟨expected, hlines, h⟩ := bind_eq_ok h
  refine ⟨fun hnil => ?_, fun entry hentry => ?_⟩
  · -- without files the list is one empty line
    have hempty : covered root (sortPaths (t.listing.walk root)) = [] :=
      List.perm_nil.mp (hnil ▸ perm_covered root t)
    rw [checksumText, hempty] at hlines
    exact nomatch hlines
  · have hactual : asPosix entry.1 ∈ actual root' t' :=
      List.mem_map.mpr ⟨entry, by rw [covered_walk]; exact (hsame _ _).mp hentry, rfl⟩
    exact sha.lineBreak_of_verifyLines hlines
      (fun line hline => lineBreak_of_mem_splitlines hline) (fun _ hpath => nomatch hpath) _
      ((require_eq_ok h).1 _ hactual)

end Written

/-! ## Later changes -/

/-- The list written into `t` is accepted at once, and refused in the later state `t'`. -/
def ChecksumsCover (root root' : PathParts) (t t' : FileTree) : Prop :=
  ∃ w, sha.writeChecksums root t = .ok w ∧ sha.verifyChecksums root w = .ok () ∧
    ∃ e, sha.verifyChecksums root' t' = .error e

end Sha256

/-- What a write into the root leaves. -/
theorem FileTree.write_eq_ok {t w : FileTree} {name : String} {content : Contents}
    {hname : LegalName name} (h : t.write name content hname = .ok w) :
    t.listing.put name content = some w.listing := by
  unfold write at h
  split at h
  · next listing heq =>
      rw [← Except.ok.inj h]
      exact heq
  · cases h

namespace Sha256

variable (sha : Sha256)

theorem writeChecksums_spec {root : PathParts} {t w : FileTree}
    (h : sha.writeChecksums root t = .ok w) :
    w.listing.read [checksumsName] = some (utf8 (String.ofList (sha.checksumText root t))) ∧
      t.SameCovered w := by
  have hput := FileTree.write_eq_ok h
  refine ⟨by rw [Listing.read_put hput, if_pos rfl], FileTree.sameCovered_iff.mpr ?_⟩
  intro path hpath
  rw [Listing.read_put hput, if_neg]
  rintro rfl
  exact hpath rfl

/-- The list can be written unless a directory has its name. -/
theorem exists_writeChecksums_iff (root : PathParts) (t : FileTree) :
    (∃ w, sha.writeChecksums root t = .ok w) ↔ ¬ t.listing.HasDirectory checksumsName := by
  rw [← Listing.put_eq_none_iff (utf8 (String.ofList (sha.checksumText root t))) t.distinct,
    writeChecksums, FileTree.write]
  split
  · next heq => exact ⟨fun _ hnone => (nomatch heq.symm.trans hnone), fun _ => ⟨_, rfl⟩⟩
  · next heq => exact ⟨fun h => (nomatch h), fun h => absurd heq h⟩

end Sha256

/-- A file `a`, and a directory `d` that holds a checksum list of its own. -/
def nestedTree : FileTree where
  listing := .file "a" [1] (.directory "d" (.file "SHA256SUMS" [1] .nil) .nil)
  distinct := by decide
  legal := by decide

/-- The tree with the list written for `nestedTree` and these contents of the two files. -/
def listedTree (a nested : Contents) : FileTree where
  listing :=
    .file "SHA256SUMS" (utf8 (String.ofList (sampleSha.checksumText [] nestedTree)))
      (.file "a" a (.directory "d" (.file "SHA256SUMS" nested .nil) .nil))
  distinct := ⟨(by decide : "SHA256SUMS" ∉ ["a", "d"]), (by decide : "a" ∉ ["d"]),
    List.not_mem_nil, ⟨List.not_mem_nil, trivial⟩, trivial⟩
  legal := ⟨by decide, by decide, by decide, ⟨by decide, trivial⟩, trivial⟩

theorem nestedTree_safeNames : nestedTree.SafeNames := fun entry hentry => by
  have hsafe : ∀ entry ∈ nestedTree.files, ¬ Unsafe (asPosix entry.1) := by decide
  exact ⟨_, if_neg (hsafe entry hentry)⟩

theorem nestedTree_unbroken : nestedTree.coveredFiles ≠ [] ∧ nestedTree.Unbroken :=
  ⟨by decide, by unfold FileTree.Unbroken; decide⟩

end NetStrike.Scripts
