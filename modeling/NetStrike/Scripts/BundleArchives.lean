import NetStrike.Foundation.LinkedFiles
import NetStrike.Foundation.Raising
import NetStrike.Scripts.SafePaths

/-!
# Members of an archive

`_safe_archive_members` of `scripts/offline_bundle.py` and the extraction that follows it: the
members are written in order by `TarFile.extractall` without a filter, on a file system whose links
are followed. `limit` bounds the steps of one path lookup, as the system bounds the links it follows.
-/

set_option autoImplicit false

namespace NetStrike.Scripts

open NetStrike.Foundation NetStrike.Foundation.Checked

/-! ## Path texts -/

/-- `posixpath.dirname`. -/
def dirname (value : String) : String :=
  let head := (value.toList.reverse.dropWhile fun c => c != '/').reverse
  if head.all fun c => c == '/' then String.ofList head
  else String.ofList (head.reverse.dropWhile fun c => c == '/').reverse

/-- `posixpath.join`. -/
def joinPath (a b : String) : String :=
  if b.toList.head? = some '/' then b
  else if a = "" ∨ a.toList.getLast? = some '/' then a ++ b
  else a ++ "/" ++ b

/-- One component of `posixpath.normpath`. -/
def normStep (comps : List String) (comp : String) : List String :=
  if comp = "" ∨ comp = "." then comps
  else if comp ≠ ".." ∨ comps = [] ∨ comps.getLast? = some ".." then comps ++ [comp]
  else comps.dropLast

/-- The components of a path text. -/
def components (value : String) : List String := (split '/' value.toList).map String.ofList

/-- `posixpath.normpath`, of a relative path. -/
def normpath (value : String) : String := asPosix ((components value).foldl normStep [])

/-- A component as a step of a path lookup. -/
def stepOf (part : String) : PathStep String :=
  if part = "" ∨ part = "." then .stay else if part = ".." then .up else .down part

/-- The steps of a path lookup. -/
def pathSteps (value : String) : List (PathStep String) := (components value).map stepOf

/-! ## Accepted members -/

/-- What a member of an archive is. -/
inductive MemberKind where
  | file (content : Contents)
  | directory
  | symlink (linkname : String)
  | hardlink (linkname : String)
  | other
deriving DecidableEq

/-- A `TarInfo`. -/
structure Member where
  name : String
  kind : MemberKind
deriving DecidableEq

/-- `issym` or `islnk`, with the name that is linked to and the path it is resolved from. -/
def Member.link? (m : Member) : Option (String × String) :=
  match m.kind with
  | .symlink linkname => some (linkname, joinPath (dirname m.name) linkname)
  | .hardlink linkname => some (linkname, linkname)
  | _ => none

/-- The check of a link. -/
def checkLink (expectedRoot name link path : String) : Except Refusal Unit := do
  require (¬ (link = "" ∨ link.toList.head? = some '/' ∨ '\\' ∈ link.toList ∨ '\x00' ∈ link.toList))
    (.value ("unsafe archive link: " ++ name))
  let resolved := normpath path
  require (¬ (resolved = ".." ∨ "../".toList <+: resolved.toList ∨
      (components resolved).head? ≠ some expectedRoot))
    (.value ("archive link escapes its root: " ++ name))

/-- One round of the loop; `names` are the names seen so far. -/
def checkMember (expectedRoot : String) (allowLinks : Bool) (names : List String) (m : Member) :
    Except Refusal (List String) := do
  let relative ← safeRelativePath m.name
  require (relative.head? = some expectedRoot) (.value ("unexpected archive path: " ++ m.name))
  require (asPosix relative ∉ names) (.value ("duplicate archive path: " ++ m.name))
  match m.kind, m.link? with
  | .file _, _ => .ok (names ++ [asPosix relative])
  | .directory, _ => .ok (names ++ [asPosix relative])
  | _, none => .error (.value ("unsupported archive entry: " ++ m.name))
  | _, some (link, path) => do
      require (allowLinks = true) (.value ("unsupported archive entry: " ++ m.name))
      checkLink expectedRoot m.name link path
      return names ++ [asPosix relative]

/-- The loop over the members. -/
def checkMembers (expectedRoot : String) (allowLinks : Bool) :
    List String → List Member → Except Refusal Unit
  | _, [] => .ok ()
  | names, m :: members => do
      let names ← checkMember expectedRoot allowLinks names m
      checkMembers expectedRoot allowLinks names members

/-- `_safe_archive_members`. -/
def safeArchiveMembers (members : List Member) (expectedRoot : String) (allowLinks : Bool) :
    Except Refusal (List Member) := do
  require (members ≠ []) (.value "archive is empty")
  checkMembers expectedRoot allowLinks [] members
  return members

/-! ## Extraction -/

/-- The file system that an archive is unpacked on. -/
abbrev Disk := LinkedFiles String Contents

/-- An operation on the disk that may fail, and leaves what it did before. -/
abbrev Os (α : Type) := Raising Refusal Disk α

section Extract

variable (limit : Nat) (target : PathParts)

/-- `os.makedirs` for a path below a directory; returns the directory that the path leads to. -/
def makedirs : PathParts → PathParts → Os PathParts
  | dir, [] => pure dir
  | dir, part :: parts => fun fs =>
      match fs.node (dir ++ [part]) with
      | none =>
          makedirs (dir ++ [part]) parts
            (fs.setNode (dir ++ [part]) (some .directory) (fun _ h => nomatch h))
      | some .directory => makedirs (dir ++ [part]) parts fs
      | some (.file _) => (.error .os, fs)
      | some (.symlink _) =>
          match fs.follow true limit dir [.down part] with
          | none => (.error .os, fs)
          | some place =>
              if fs.node place = some .directory then makedirs place parts fs
              else (.error .os, fs)

/-- `TarFile.makedir`: an existing directory, also at the end of a link, is left alone. -/
def makedir (place : PathParts) : Os Unit := fun fs =>
  match fs.node place with
  | none => (.ok (), fs.setNode place (some .directory) (fun _ h => nomatch h))
  | some .directory => (.ok (), fs)
  | some (.file _) => (.error .os, fs)
  | some (.symlink steps) =>
      match fs.follow true limit place.dropLast steps with
      | none => (.error .os, fs)
      | some found => if fs.node found = some .directory then (.ok (), fs) else (.error .os, fs)

/-- Open a file for writing at a place that is no link, and write it. -/
def writeFile (content : Contents) (place : PathParts) : Os Unit := fun fs =>
  match fs.node place with
  | none => (.ok (), fs.create place content)
  | some (.file inode) => (.ok (), fs.overwrite inode content)
  | some _ => (.error .os, fs)

/-- `TarFile.makefile`: the file is opened through a link. -/
def makefile (content : Contents) (place : PathParts) : Os Unit := fun fs =>
  match fs.node place with
  | some (.symlink steps) =>
      match fs.follow true limit place.dropLast steps with
      | none => (.error .os, fs)
      | some found => writeFile content found fs
  | _ => writeFile content place fs

/-- `TarFile.makelink`, for a symbolic link: what is there is unlinked first. -/
def makesymlink (linkname : String) (place : PathParts) : Os Unit := fun fs =>
  match fs.node place with
  | some .directory => (.error .os, fs)
  | _ => (.ok (), fs.setNode place (some (.symlink (pathSteps linkname))) (fun _ h => nomatch h))

/-- `os.path.exists`. -/
def exists? (fs : Disk) (linkname : String) : Bool :=
  match fs.follow true limit target (pathSteps linkname) with
  | none => false
  | some place => (fs.node place).isSome

/-- The entry that a path names, without following it; a path that does not end in a name leads to a
directory, which cannot be linked. -/
def entryOf (fs : Disk) (steps : List (PathStep String)) : Option PathParts :=
  match steps.getLast? with
  | some (.down name) => (fs.follow true limit target steps.dropLast).map fun dir => dir ++ [name]
  | _ => none

/-- `os.link`: a second entry for a file, or for a link itself. -/
def hardlink (linkname : String) (place : PathParts) : Os Unit := fun fs =>
  match entryOf limit target fs (pathSteps linkname) with
  | none => (.error .os, fs)
  | some source =>
      match h : fs.node source with
      | some (.file inode) =>
          if (fs.node place).isNone then
            (.ok (), fs.setNode place (some (.file inode)) (fun other heq => by
              rw [Option.some.injEq, FileNode.file.injEq] at heq
              exact heq ▸ fs.fresh source inode h))
          else (.error .os, fs)
      | some (.symlink steps) =>
          if (fs.node place).isNone then
            (.ok (), fs.setNode place (some (.symlink steps)) (fun _ heq => nomatch heq))
          else (.error .os, fs)
      | _ => (.error .os, fs)

/-- The fallback of `TarFile.makelink`: the last earlier member of the name that is linked to is
written instead. `earlier` has the latest member first. -/
def copyLinked (place : PathParts) : List Member → String → Os Unit
  | [], _ => Raising.raise .os
  | m :: earlier, linkname =>
      if normpath m.name = normpath linkname then
        match m.kind with
        | .file content => makefile limit content place
        | .directory => makedir limit place
        | .symlink link => makesymlink link place
        | .hardlink link => fun fs =>
            if exists? limit target fs link = true then hardlink limit target link place fs
            else copyLinked place earlier link fs
        | .other => Raising.raise .os
      else copyLinked place earlier linkname

/-- Write a member at its place. -/
def writeAt (earlier : List Member) (kind : MemberKind) (place : PathParts) : Os Unit :=
  match kind with
  | .file content => makefile limit content place
  | .directory => makedir limit place
  | .symlink linkname => makesymlink linkname place
  | .hardlink linkname => fun fs =>
      if exists? limit target fs linkname = true then hardlink limit target linkname place fs
      else copyLinked limit target place earlier linkname fs
  | .other => Raising.raise .os

/-- The name of a member without the slashes at its end. -/
def strippedName (name : String) : String :=
  String.ofList (name.toList.reverse.dropWhile fun c => c == '/').reverse

/-- `TarFile._extract_member`: the directories above are made, then the member is written. A name
that ends in a dot names a directory that exists by then. -/
def extractMember (earlier : List Member) (m : Member) : Os Unit :=
  match (posixParts m.name).getLast? with
  | none => Raising.raise .os
  | some last =>
      if (components (strippedName m.name)).getLast? = some "." then
        Raising.bind (makedirs limit target (posixParts m.name)) fun dir =>
          writeAt limit target earlier m.kind dir
      else
        Raising.bind (makedirs limit target (posixParts m.name).dropLast) fun dir =>
          writeAt limit target earlier m.kind (dir ++ [last])

/-- `TarFile.extractall`; a failure ends it. -/
def extractAll : List Member → List Member → Os Unit
  | _, [] => pure ()
  | earlier, m :: members =>
      Raising.bind (extractMember limit target earlier m) fun _ => extractAll (m :: earlier) members

end Extract

end NetStrike.Scripts
