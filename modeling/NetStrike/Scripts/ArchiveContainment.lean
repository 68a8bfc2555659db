import NetStrike.Scripts.ArchiveLinks

/-!
# Where an accepted archive is written

`Aligned` is the condition under which the check of the links, which reads paths by names alone,
agrees with the disk: no symbolic link lies behind another link or has a slash at the end of its
name, no link goes up after another link, and no hard link touches a symbolic one. `Confined` is what
every write then keeps, and `archive_contained` what it means for a whole extraction.
-/

set_option autoImplicit false

namespace NetStrike.Scripts

open NetStrike.Foundation NetStrike.Foundation.Checked NetStrike.Foundation.LinkedFiles

/-- The paths of the symbolic links of an archive. -/
def linkPlaces (members : List Member) : List PathParts :=
  members.filterMap fun m =>
    match m.kind with
    | .symlink _ => some (posixParts m.name)
    | _ => none

theorem mem_linkPlaces {members : List Member} {m : Member} {link : String} (hm : m ∈ members)
    (hkind : m.kind = .symlink link) : posixParts m.name ∈ linkPlaces members :=
  List.mem_filterMap.mpr ⟨m, hm, by rw [hkind]⟩

/-- The names of a member and of its target can be trusted. -/
def Aligned (members : List Member) (m : Member) : Prop :=
  match m.kind with
  | .symlink link =>
      m.name.toList.getLast? ≠ some '/' ∧
        (∀ above ∈ (posixParts m.name).dropLast.inits, above ∉ linkPlaces members) ∧
        Clear (fun path => path ∈ linkPlaces members) (posixParts m.name).dropLast (pathSteps link)
  | .hardlink link => Untouched (fun path => path ∈ linkPlaces members) [] (pathSteps link)
  | _ => True

instance (members : List Member) (m : Member) : Decidable (Aligned members m) := by
  unfold Aligned
  split <;> infer_instance

/-! ## Accepted members -/

/-- What an accepted member is. -/
structure AcceptedMember (root : String) (m : Member) : Prop where
  safe : ¬ Unsafe m.name
  head : ∃ below, posixParts m.name = root :: below
  link : ∀ link path, m.link? = some (link, path) →
    link.toList.head? ≠ some '/' ∧ ∃ below, lexical [] (pathSteps path) = some (root :: below)

theorem acceptedMember_of_check {root : String} {names names' : List String} {m : Member}
    (h : checkMember root true names m = .ok names') : AcceptedMember root m := by
  obtain ⟨relative, hrelative, h⟩ := bind_eq_ok h
  obtain ⟨_, hroot, h⟩ := bind_eq_ok h
  obtain ⟨_, -, h⟩ := bind_eq_ok h
  have hroot := require_eq_ok hroot
  have hlegal := legal_head hrelative hroot
  obtain ⟨hsafe, rfl⟩ := safeRelativePath_eq_ok hrelative
  refine ⟨hsafe, ?_, ?_⟩
  · cases hparts : posixParts m.name with
    | nil =>
        rw [hparts] at hroot
        cases hroot
    | cons first below =>
        rw [hparts] at hroot
        exact ⟨below, by rw [Option.some.inj hroot]⟩
  · intro link path hlink
    have hcheck : ∃ u, checkLink root m.name link path = .ok u := by
      split at h
      · next hkind =>
          rw [Member.link?, hkind] at hlink
          cases hlink
      · next hkind =>
          rw [Member.link?, hkind] at hlink
          cases hlink
      · cases h
      · next hfound _ _ =>
          obtain ⟨rfl, rfl⟩ := Prod.mk.inj (Option.some.inj (hfound.symm.trans hlink))
          obtain ⟨_, -, h⟩ := bind_eq_ok h
          obtain ⟨u, hu, -⟩ := bind_eq_ok h
          exact ⟨u, hu⟩
    obtain ⟨u, hu⟩ := hcheck
    refine ⟨fun habsolute => ?_, lexical_of_checkLink hlegal.2 hu⟩
    obtain ⟨_, hsound, -⟩ := bind_eq_ok hu
    exact require_eq_ok hsound (Or.inr (Or.inl habsolute))

theorem acceptedMember_of_mem {root : String} {names : List String} {members : List Member}
    {u : Unit} (h : checkMembers root true names members = .ok u) :
    ∀ m ∈ members, AcceptedMember root m := by
  induction members generalizing names with
  | nil => exact fun _ hm => nomatch hm
  | cons m members ih =>
      obtain ⟨names', hcheck, h⟩ := bind_eq_ok h
      exact List.forall_mem_cons.mpr ⟨acceptedMember_of_check hcheck, ih h⟩

/-- Every member of an accepted archive is accepted. -/
theorem accepted_of_safe {root : String} {members found : List Member}
    (h : safeArchiveMembers members root true = .ok found) : ∀ m ∈ members, AcceptedMember root m := by
  obtain ⟨_, -, h⟩ := bind_eq_ok h
  obtain ⟨_, hcheck, -⟩ := bind_eq_ok h
  exact acceptedMember_of_mem hcheck

section Archive

variable {root : String} {members : List Member} {target : PathParts} {fs₀ : Disk}

/-- A symbolic link that is written is anchored. -/
theorem anchored_of_aligned {m : Member} {link : String} (haccepted : AcceptedMember root m)
    (haligned : Aligned members m) (hkind : m.kind = .symlink link)
    (hdot : (components m.name).getLast? ≠ some ".") :
    Anchored root (fun path => path ∈ linkPlaces members) (posixParts m.name) (pathSteps link) := by
  rw [Aligned, hkind] at haligned
  obtain ⟨hrelative, below, hlexical⟩ :=
    haccepted.link link (joinPath (dirname m.name) link) (by rw [Member.link?, hkind])
  rw [lexical_joinPath haccepted.safe haligned.1 hdot hrelative] at hlexical
  exact ⟨⟨below, hlexical⟩, haligned.2.2⟩

/-! ## What every write keeps -/

variable (root members target fs₀)

/-- The disk while the archive is written: its links are anchored, and outside of the root nothing
is other than it was. -/
structure Confined (fs : Disk) : Prop where
  contained : Contained target root (fun path => path ∈ linkPlaces members) fs
  outside : ∀ path, ¬ Inside target root path → fs.node path = fs₀.node path
  next : fs₀.next ≤ fs.next
  content : ∀ inode < fs₀.next, fs.content inode = fs₀.content inode
  inside : ∀ path inode, Inside target root path → fs.node path = some (.file inode) →
    fs₀.next ≤ inode

variable {root members target fs₀}

namespace Confined

variable {fs : Disk} {path : PathParts}

theorem of_empty (hempty : ∀ name below, fs₀.node (target ++ name :: below) = none) :
    Confined root members target fs₀ fs₀ where
  contained := {
    beside := fun name below _ => hempty name below
    known := fun below _ h => nomatch (hempty root below).symm.trans h }
  outside := fun _ _ => rfl
  next := Nat.le_refl _
  content := fun _ _ => rfl
  inside := fun path inode hpath h => by
    obtain ⟨below, rfl⟩ := hpath
    exact nomatch (hempty root below).symm.trans h

/-- A path beside the root is not in it. -/
theorem not_inside_beside {name : String} (hname : name ≠ root) (below : PathParts) :
    ¬ Inside target root (target ++ name :: below) := by
  rintro ⟨under, heq⟩
  exact hname (List.cons.inj (List.append_cancel_left heq)).1

/-- A node may be put into the root, if a link is known and anchored and a file is not an old one. -/
theorem setNode (h : Confined root members target fs₀ fs) (hpath : Inside target root path)
    {node : Option (FileNode String)} (hnode : ∀ inode, node = some (.file inode) → inode < fs.next)
    (hfile : ∀ inode, node = some (.file inode) → fs₀.next ≤ inode)
    (hlink : ∀ below steps, path = target ++ root :: below → node = some (.symlink steps) →
      (root :: below) ∈ linkPlaces members ∧
        Anchored root (fun path => path ∈ linkPlaces members) (root :: below) steps) :
    Confined root members target fs₀ (fs.setNode path node hnode) where
  contained := {
    beside := fun name below hname => by
      rw [setNode_of_ne hnode fun heq => not_inside_beside hname below (heq ▸ hpath)]
      exact h.contained.beside name below hname
    known := fun below steps hsome => by
      by_cases heq : target ++ root :: below = path
      · rw [heq, setNode_self] at hsome
        exact hlink below steps heq.symm hsome
      · rw [setNode_of_ne hnode heq] at hsome
        exact h.contained.known below steps hsome }
  outside := fun other hother => by
    have hne : other ≠ path := fun heq => hother (heq ▸ hpath)
    rw [setNode_of_ne hnode hne]
    exact h.outside other hother
  next := h.next
  content := h.content
  inside := fun other inode hother hsome => by
    by_cases heq : other = path
    · rw [heq, setNode_self] at hsome
      exact hfile inode hsome
    · rw [setNode_of_ne hnode heq] at hsome
      exact h.inside other inode hother hsome

/-- A directory may be made in the root. -/
theorem setDirectory (h : Confined root members target fs₀ fs) (hpath : Inside target root path) :
    Confined root members target fs₀
      (fs.setNode path (some .directory) (fun _ heq => nomatch heq)) :=
  h.setNode hpath _ (fun _ heq => nomatch heq) (fun _ _ _ heq => nomatch heq)

/-- A new file may be made in the root. -/
theorem create (h : Confined root members target fs₀ fs) (hpath : Inside target root path)
    (content : Contents) : Confined root members target fs₀ (fs.create path content) where
  contained := {
    beside := fun name below hname => by
      rw [create_of_ne content fun heq => not_inside_beside hname below (heq ▸ hpath)]
      exact h.contained.beside name below hname
    known := fun below steps hsome => by
      by_cases heq : target ++ root :: below = path
      · rw [heq, create_self] at hsome
        cases hsome
      · rw [create_of_ne content heq] at hsome
        exact h.contained.known below steps hsome }
  outside := fun other hother => by
    have hne : other ≠ path := fun heq => hother (heq ▸ hpath)
    rw [create_of_ne content hne]
    exact h.outside other hother
  next := Nat.le_succ_of_le h.next
  content := fun inode hinode => by
    have hne : inode ≠ fs.next := (Nat.lt_of_lt_of_le hinode h.next).ne
    exact (Function.update_of_ne hne _ _).trans (h.content inode hinode)
  inside := fun other inode hother hsome => by
    by_cases heq : other = path
    · rw [heq, create_self, Option.some.injEq, FileNode.file.injEq] at hsome
      exact hsome ▸ h.next
    · rw [create_of_ne content heq] at hsome
      exact h.inside other inode hother hsome

/-- A file that was made may be written again. -/
theorem overwrite (h : Confined root members target fs₀ fs) {inode : Nat}
    (hinode : fs₀.next ≤ inode) (content : Contents) :
    Confined root members target fs₀ (fs.overwrite inode content) where
  contained := ⟨h.contained.beside, h.contained.known⟩
  outside := h.outside
  next := h.next
  content := fun other hother => by
    have hne : other ≠ inode := (Nat.lt_of_lt_of_le hother hinode).ne
    exact (Function.update_of_ne hne _ _).trans (h.content other hother)
  inside := h.inside

/-- What a link in the root leads to lies in the root. -/
theorem follow_link (h : Confined root members target fs₀ fs) (hpath : Inside target root path)
    {steps : List (PathStep String)} (hnode : fs.node path = some (.symlink steps)) {strict : Bool}
    {limit : Nat} {place : PathParts}
    (hfollow : fs.follow strict limit path.dropLast steps = some place) :
    Inside target root place := by
  obtain ⟨below, rfl⟩ := hpath
  have htrusted := trusted_of_anchored target (h.contained.known below steps hnode).2
    (List.not_mem_nil)
  rw [List.append_nil] at htrusted
  rw [List.dropLast_append_of_ne_nil (List.cons_ne_nil root below)] at hfollow
  exact follow_inside h.contained htrusted hfollow

end Confined

/-! ## The writes -/

/-- The operation keeps the disk confined, also when it fails. -/
abbrev KeepsConfined (root : String) (members : List Member) (target : PathParts) (fs₀ : Disk)
    {α : Type} (op : Os α) : Prop :=
  Raising.Triple (Confined root members target fs₀) op (fun _ => Confined root members target fs₀)
    fun _ => Confined root members target fs₀

theorem KeepsConfined.of_state {α : Type} {op : Os α}
    (h : ∀ fs, Confined root members target fs₀ fs → Confined root members target fs₀ (op fs).2) :
    KeepsConfined root members target fs₀ op :=
  Raising.Triple.intro (fun fs _ _ hfs heq => by have hnext := h fs hfs; rwa [heq] at hnext)
    fun fs _ _ hfs heq => by have hnext := h fs hfs; rwa [heq] at hnext

theorem KeepsConfined.ite {α : Type} {op op' : Os α} {p : Disk → Prop} [DecidablePred p]
    (h : KeepsConfined root members target fs₀ op)
    (h' : KeepsConfined root members target fs₀ op') :
    KeepsConfined root members target fs₀ (fun fs => if p fs then op fs else op' fs) := by
  intro fs hfs
  by_cases hp : p fs
  · simp only [if_pos hp]
    exact h fs hfs
  · simp only [if_neg hp]
    exact h' fs hfs

variable {limit : Nat}

/-- Making directories ends in an existing directory in the root. -/
theorem makedirs_inside {dir parts : PathParts}
    (hdir : Inside target root dir ∨ (dir = target ∧ ∃ rest, parts = root :: rest)) :
    Raising.Triple
      (fun fs => Confined root members target fs₀ fs ∧ fs.node dir = some .directory)
      (makedirs limit dir parts)
      (fun place fs => Confined root members target fs₀ fs ∧
        Inside target root place ∧ fs.node place = some .directory)
      (fun _ => Confined root members target fs₀) := by
  induction parts generalizing dir with
  | nil =>
      rintro fs ⟨h, hnode⟩
      rcases hdir with hinside | ⟨-, rest, hrest⟩
      · exact ⟨h, hinside, hnode⟩
      · cases hrest
  | cons part parts ih =>
      rintro fs ⟨h, hnode⟩
      have hpath : Inside target root (dir ++ [part]) := by
        rcases hdir with hinside | ⟨rfl, rest, hrest⟩
        · exact hinside.append [part]
        · rw [(List.cons.inj hrest).1]
          exact ⟨[], rfl⟩
      have htrusted : Trusted target root (fun path => path ∈ linkPlaces members) dir
          [.down part] := by
        rcases hdir with hinside | ⟨rfl, rest, hrest⟩
        · exact Or.inl ⟨by simp, hinside⟩
        · rw [(List.cons.inj hrest).1]
          exact Or.inr ⟨[], [], (List.append_nil _).symm, rfl, clear_of_notMem (by simp)⟩
      unfold makedirs
      dsimp only
      cases hpart : fs.node (dir ++ [part]) with
      | none => exact ih (Or.inl hpath) _ ⟨h.setDirectory hpath, setNode_self _⟩
      | some found =>
          cases found with
          | directory => exact ih (Or.inl hpath) _ ⟨h, hpart⟩
          | file inode => exact h
          | symlink steps =>
              dsimp only
              cases hfollow : fs.follow true limit dir [.down part] with
              | none => exact h
              | some place =>
                  dsimp only
                  by_cases hplace : fs.node place = some .directory
                  · rw [if_pos hplace]
                    exact ih (Or.inl (follow_inside h.contained htrusted hfollow)) _ ⟨h, hplace⟩
                  · rw [if_neg hplace]
                    exact h

/-- Making directories along a path without links ends where the path says. -/
theorem makedirs_exact {above parts : PathParts}
    (hlinks : ∀ path, path <+: above ++ parts → path ∉ linkPlaces members)
    (hroot : above ++ parts = [] ∨ ∃ rest, above ++ parts = root :: rest) :
    Raising.Triple (Confined root members target fs₀)
      (makedirs limit (target ++ above) parts)
      (fun place fs => Confined root members target fs₀ fs ∧ place = target ++ above ++ parts)
      (fun _ => Confined root members target fs₀) := by
  induction parts generalizing above with
  | nil =>
      intro fs h
      exact ⟨h, (List.append_nil _).symm⟩
  | cons part parts ih =>
      intro fs h
      have hsplit : above ++ part :: parts = above ++ [part] ++ parts := List.append_cons _ _ _
      have hpath : Inside target root (target ++ above ++ [part]) := by
        rcases hroot with hnil | ⟨rest, hrest⟩
        · exact absurd hnil (by simp)
        · cases above with
          | nil =>
              rw [List.append_nil, (List.cons.inj hrest).1]
              exact ⟨[], rfl⟩
          | cons first above =>
              rw [(List.cons.inj hrest).1]
              exact ⟨above ++ [part], by simp⟩
      have hnext : Raising.Triple (Confined root members target fs₀)
          (makedirs limit (target ++ (above ++ [part])) parts)
          (fun place fs => Confined root members target fs₀ fs ∧
            place = target ++ (above ++ [part]) ++ parts)
          (fun _ => Confined root members target fs₀) :=
        ih (hsplit ▸ hlinks) (hsplit ▸ hroot)
      rw [← List.append_assoc, List.append_assoc _ [part], List.singleton_append] at hnext
      unfold makedirs
      dsimp only
      cases hpart : fs.node (target ++ above ++ [part]) with
      | none => exact hnext _ (h.setDirectory hpath)
      | some found =>
          cases found with
          | directory => exact hnext _ h
          | file inode => exact h
          | symlink steps =>
              -- a link on the way would be one of the archive's
              rw [List.append_assoc] at hpart
              have hlink := (h.contained.of_symlink (by simp) hpart).1
              exact absurd hlink (hlinks _ (hsplit ▸ List.prefix_append _ _))

variable {place : PathParts}

theorem makedir_confined (hplace : Inside target root place) :
    KeepsConfined root members target fs₀ (makedir limit place) := by
  intro fs h
  unfold makedir
  cases hnode : fs.node place with
  | none => exact h.setDirectory hplace
  | some found =>
      cases found with
      | directory => exact h
      | file inode => exact h
      | symlink steps =>
          dsimp only
          cases fs.follow true limit place.dropLast steps with
          | none => exact h
          | some found =>
              dsimp only
              by_cases hfound : fs.node found = some .directory
              · rw [if_pos hfound]
                exact h
              · rw [if_neg hfound]
                exact h

theorem writeFile_confined {content : Contents} (hplace : Inside target root place) :
    KeepsConfined root members target fs₀ (writeFile content place) := by
  intro fs h
  unfold writeFile
  cases hnode : fs.node place with
  | none => exact h.create hplace content
  | some found =>
      cases found with
      | directory => exact h
      | file inode => exact h.overwrite (h.inside place inode hplace hnode) content
      | symlink steps => exact h

theorem makefile_confined {content : Contents} (hplace : Inside target root place) :
    KeepsConfined root members target fs₀ (makefile limit content place) := by
  intro fs h
  have hwrite : KeepsConfined root members target fs₀ (writeFile content place) :=
    writeFile_confined hplace
  unfold makefile
  cases hnode : fs.node place with
  | none => exact hwrite fs h
  | some found =>
      cases found with
      | directory => exact hwrite fs h
      | file inode => exact hwrite fs h
      | symlink steps =>
          dsimp only
          cases hfollow : fs.follow true limit place.dropLast steps with
          | none => exact h
          | some found => exact writeFile_confined (h.follow_link hplace hnode hfollow) fs h

/-- A symbolic link is written where its member says. -/
theorem makesymlink_confined {m : Member} {link : String} (hm : m ∈ members)
    (haccepted : AcceptedMember root m) (haligned : Aligned members m)
    (hkind : m.kind = .symlink link) (hdot : (components m.name).getLast? ≠ some ".") :
    KeepsConfined root members target fs₀ (makesymlink link (target ++ posixParts m.name)) := by
  intro fs h
  obtain ⟨below, hparts⟩ := haccepted.head
  have hplace : Inside target root (target ++ posixParts m.name) := ⟨below, by rw [hparts]⟩
  have hset : Confined root members target fs₀
      (fs.setNode (target ++ posixParts m.name) (some (.symlink (pathSteps link)))
        (fun _ heq => by cases heq)) := by
    refine h.setNode hplace _ (fun _ heq => by cases heq) fun found steps hpath hsteps => ?_
    rw [← List.append_cancel_left hpath, ← FileNode.symlink.inj (Option.some.inj hsteps)]
    exact ⟨mem_linkPlaces hm hkind, anchored_of_aligned haccepted haligned hkind hdot⟩
  unfold makesymlink
  cases fs.node (target ++ posixParts m.name) with
  | none => exact hset
  | some found =>
      cases found with
      | directory => exact h
      | file inode => exact hset
      | symlink steps => exact hset

/-! ## Hard links -/

/-- The names on the way of steps that touch no link are no links. -/
theorem prefix_of_untouched {links : PathParts → Prop} {at_ named : PathParts}
    {steps : List (PathStep String)} (h : Untouched links at_ steps)
    (hnamed : lexical at_ steps = some named)
    (hat : ∀ path, path <+: at_ → path ≠ [] → ¬ links path) :
    ∀ path, path <+: named → path ≠ [] → ¬ links path := by
  induction steps generalizing at_ with
  | nil => rwa [← Option.some.inj hnamed]
  | cons step steps ih =>
      cases step with
      | stay =>
          have hrest : Untouched links at_ steps := h
          exact ih hrest hnamed hat
      | up =>
          cases at_ with
          | nil => cases hnamed
          | cons part parts =>
              have hrest : Untouched links (part :: parts).dropLast steps := h
              refine ih hrest hnamed fun path hpath => ?_
              exact hat path (hpath.trans (List.dropLast_prefix _))
      | down name =>
          refine ih h.2 hnamed fun path hpath hne => ?_
          rcases List.prefix_concat_iff.mp hpath with rfl | hpath
          · exact h.1
          · exact hat path hpath hne

/-- The text of a normal path determines the path. -/
theorem normpath_inj {a b : String} (ha : (components a).foldl normStep [] ≠ [])
    (hb : (components b).foldl normStep [] ≠ []) (h : normpath a = normpath b) :
    (components a).foldl normStep [] = (components b).foldl normStep [] := by
  rw [← components_normpath ha, ← components_normpath hb, h]

/-- A member found under the name that a hard link names is not a symbolic link. -/
theorem not_symlink_of_normpath {m : Member} {link : String} {below : PathParts} (hm : m ∈ members)
    (haccepted : AcceptedMember root m)
    (huntouched : Untouched (fun path => path ∈ linkPlaces members) [] (pathSteps link))
    (hnamed : lexical [] (pathSteps link) = some (root :: below))
    (hnorm : normpath m.name = normpath link) (found : String) : m.kind ≠ .symlink found := by
  intro hkind
  obtain ⟨rest, hparts⟩ := haccepted.head
  have hname := foldl_normStep_name (dots_notMem haccepted.safe)
  have hlink := foldl_normStep_of_lexical hnamed
  have hsame := normpath_inj (by rw [hname, hparts]; simp) (by rw [hlink]; simp) hnorm
  rw [hname, hlink] at hsame
  have hfree := prefix_of_untouched huntouched hnamed
    (fun path hpath hne => absurd (List.prefix_nil.mp hpath) hne)
    (root :: below) List.prefix_rfl (List.cons_ne_nil _ _)
  exact hfree (hsame ▸ mem_linkPlaces hm hkind)

/-- A hard link names a file in the root. -/
theorem hardlink_confined {link : String} {below : PathParts}
    (huntouched : Untouched (fun path => path ∈ linkPlaces members) [] (pathSteps link))
    (hnamed : lexical [] (pathSteps link) = some (root :: below))
    (hplace : Inside target root place) :
    KeepsConfined root members target fs₀ (hardlink limit target link place) := by
  refine KeepsConfined.of_state fun fs h => ?_
  have hsource : ∀ source, entryOf limit target fs (pathSteps link) = some source →
      source = target ++ root :: below := by
    intro source hentry
    cases hlast : (pathSteps link).getLast? with
    | none =>
        rw [entryOf, hlast] at hentry
        cases hentry
    | some step =>
        rw [entryOf, hlast] at hentry
        cases step with
        | stay => cases hentry
        | up => cases hentry
        | down name =>
            obtain ⟨dir, hdir, rfl⟩ := Option.map_eq_some_iff.mp hentry
            have hsteps := List.dropLast_append_getLast? _ hlast
            rw [← hsteps] at huntouched hnamed
            rw [lexical_append] at hnamed
            obtain ⟨found, hfound, hend⟩ := Option.bind_eq_some_iff.mp hnamed
            rw [← List.append_nil target] at hdir
            rw [follow_untouched h.contained huntouched.of_append hfound hdir, List.append_assoc, ← Option.some.inj hend]
  have hnolink : ∀ steps, fs.node (target ++ root :: below) ≠ some (.symlink steps) := by
    intro steps hnode
    have hfree := prefix_of_untouched huntouched hnamed
      (fun path hpath hne => absurd (List.prefix_nil.mp hpath) hne)
      (root :: below) List.prefix_rfl (List.cons_ne_nil _ _)
    exact hfree (h.contained.of_symlink (List.cons_ne_nil _ _) hnode).1
  unfold hardlink
  cases hentry : entryOf limit target fs (pathSteps link) with
  | none => exact h
  | some source =>
      obtain rfl := hsource source hentry
      dsimp only
      split
      · next inode hnode =>
          have hinode := h.inside _ inode ⟨below, rfl⟩ hnode
          split
          · refine h.setNode hplace (fun other heq => ?_) (fun other heq => ?_)
              fun _ _ _ heq => nomatch heq
            · exact FileNode.file.inj (Option.some.inj heq) ▸ fs.fresh _ inode hnode
            · exact FileNode.file.inj (Option.some.inj heq) ▸ hinode
          · exact h
      · next steps hnode => exact absurd hnode (hnolink steps)
      · exact h

/-- The fallback of a hard link writes into the root. -/
theorem copyLinked_confined {earlier : List Member} (hearlier : ∀ m ∈ earlier, m ∈ members)
    (haccepted : ∀ m ∈ members, AcceptedMember root m)
    (haligned : ∀ m ∈ members, Aligned members m) {link : String} {below : PathParts}
    (huntouched : Untouched (fun path => path ∈ linkPlaces members) [] (pathSteps link))
    (hnamed : lexical [] (pathSteps link) = some (root :: below))
    (hplace : Inside target root place) :
    KeepsConfined root members target fs₀ (copyLinked limit target place earlier link) := by
  induction earlier generalizing link below with
  | nil => exact Raising.Triple.raise fun _ h => h
  | cons m earlier ih =>
      rw [List.forall_mem_cons] at hearlier
      have hmember := haccepted m hearlier.1
      rw [copyLinked]
      by_cases hnorm : normpath m.name = normpath link
      · rw [if_pos hnorm]
        cases hkind : m.kind with
        | file content => exact makefile_confined hplace
        | directory => exact makedir_confined hplace
        | other => exact Raising.Triple.raise fun _ h => h
        | symlink found =>
            exact absurd hkind
              (not_symlink_of_normpath hearlier.1 hmember huntouched hnamed hnorm found)
        | hardlink found =>
            have hfound := haligned m hearlier.1
            rw [Aligned, hkind] at hfound
            obtain ⟨-, rest, hrest⟩ :=
              hmember.link found found (by rw [Member.link?, hkind])
            exact KeepsConfined.ite (hardlink_confined hfound hrest hplace)
              (ih hearlier.2 hfound hrest)
      · rw [if_neg hnorm]
        exact ih hearlier.2 huntouched hnamed

/-! ## Whole extractions -/

/-- A member that is no symbolic link is written into the root, wherever its place is. -/
theorem writeAt_confined {earlier : List Member} (hearlier : ∀ m ∈ earlier, m ∈ members)
    (haccepted : ∀ m ∈ members, AcceptedMember root m)
    (haligned : ∀ m ∈ members, Aligned members m) {m : Member} (hm : m ∈ members)
    (hkind : ∀ link, m.kind ≠ .symlink link) (hplace : Inside target root place) :
    KeepsConfined root members target fs₀ (writeAt limit target earlier m.kind place) := by
  unfold writeAt
  cases hfound : m.kind with
  | file content => exact makefile_confined hplace
  | directory => exact makedir_confined hplace
  | other => exact Raising.Triple.raise fun _ h => h
  | symlink link => exact absurd hfound (hkind link)
  | hardlink link =>
      have hlink := haligned m hm
      rw [Aligned, hfound] at hlink
      obtain ⟨-, rest, hrest⟩ := (haccepted m hm).link link link (by rw [Member.link?, hfound])
      exact KeepsConfined.ite (hardlink_confined hlink hrest hplace)
        (copyLinked_confined hearlier haccepted haligned hlink hrest hplace)

/-- A name without a slash at its end is not shortened. -/
theorem strippedName_eq {name : String} (h : name.toList.getLast? ≠ some '/') :
    strippedName name = name := by
  have hkept : name.toList.rdropWhile (fun c => c == '/') = name.toList := by
    rw [List.rdropWhile_eq_self_iff]
    intro hne hend
    refine h ?_
    rw [List.getLast?_eq_some_getLast hne, eq_of_beq hend]
  rw [← String.toList_inj, strippedName, String.toList_ofList]
  exact hkept

/-- A symbolic link is not written over a directory. -/
theorem writeAt_directory {earlier : List Member} {m : Member} {link : String} {dir : PathParts}
    {fs : Disk} (hkind : m.kind = .symlink link) (hdir : fs.node dir = some .directory) :
    writeAt limit target earlier m.kind dir fs = (.error .os, fs) := by
  rw [hkind, writeAt, makesymlink]
  simp only [hdir]

/-- **One member** keeps the disk confined. -/
theorem extractMember_confined (htarget : fs₀.node target = some .directory)
    {earlier : List Member} (hearlier : ∀ m ∈ earlier, m ∈ members)
    (haccepted : ∀ m ∈ members, AcceptedMember root m)
    (haligned : ∀ m ∈ members, Aligned members m) {m : Member} (hm : m ∈ members) :
    KeepsConfined root members target fs₀ (extractMember limit target earlier m) := by
  have hmember := haccepted m hm
  obtain ⟨below, hparts⟩ := hmember.head
  have hroot : ∀ fs, Confined root members target fs₀ fs →
      Confined root members target fs₀ fs ∧ fs.node target = some .directory := by
    intro fs h
    refine ⟨h, (h.outside target ?_).trans htarget⟩
    rintro ⟨under, heq⟩
    simpa using congrArg List.length heq
  have hwrite : ∀ place, (∀ link, m.kind ≠ .symlink link) → Inside target root place →
      KeepsConfined root members target fs₀ (writeAt limit target earlier m.kind place) :=
    fun place hkind hplace => writeAt_confined hearlier haccepted haligned hm hkind hplace
  unfold extractMember
  cases hlast : (posixParts m.name).getLast? with
  | none => exact Raising.Triple.raise fun _ h => h
  | some last =>
      have hsplit := List.dropLast_append_getLast? _ hlast
      dsimp only
      by_cases hdot : (components (strippedName m.name)).getLast? = some "."
      · rw [if_pos hdot]
        refine Raising.Triple.bind ((makedirs_inside (Or.inr ⟨rfl, below, hparts⟩)).conseq hroot
          (fun _ _ h => h) fun _ _ h => h) fun dir => ?_
        rintro fs ⟨h, hinside, hdir⟩
        by_cases hkind : ∃ link, m.kind = .symlink link
        · obtain ⟨link, hkind⟩ := hkind
          rw [writeAt_directory hkind hdir]
          exact h
        · exact hwrite dir (fun link heq => hkind ⟨link, heq⟩) hinside fs h
      · rw [if_neg hdot]
        by_cases hkind : ∃ link, m.kind = .symlink link
        · obtain ⟨link, hkind⟩ := hkind
          have halign := haligned m hm
          rw [Aligned, hkind] at halign
          rw [strippedName_eq halign.1] at hdot
          have hempty : [] ++ (posixParts m.name).dropLast = [] ∨
              ∃ rest, [] ++ (posixParts m.name).dropLast = root :: rest := by
            rw [hparts]
            cases below with
            | nil => exact Or.inl rfl
            | cons part below => exact Or.inr ⟨(part :: below).dropLast, rfl⟩
          have hexact : Raising.Triple (Confined root members target fs₀)
              (makedirs limit (target ++ []) (posixParts m.name).dropLast)
              (fun place fs => Confined root members target fs₀ fs ∧
                place = target ++ [] ++ (posixParts m.name).dropLast)
              (fun _ => Confined root members target fs₀) :=
            makedirs_exact
              (fun path hpath => halign.2.1 path ((List.mem_inits _ _).mpr hpath)) hempty
          rw [List.append_nil] at hexact
          refine Raising.Triple.bind hexact fun dir => ?_
          rintro fs ⟨h, rfl⟩
          rw [List.append_assoc, hsplit, hkind]
          exact makesymlink_confined hm hmember (haligned m hm) hkind hdot fs h
        · have hkind : ∀ link, m.kind ≠ .symlink link := fun link heq => hkind ⟨link, heq⟩
          cases below with
          | nil =>
              rw [hparts] at hsplit ⊢
              have hplace : Inside target root (target ++ [last]) :=
                ⟨[], by rw [List.singleton_inj.mp hsplit]⟩
              exact Raising.Triple.bind (Q := fun dir fs =>
                Confined root members target fs₀ fs ∧ dir = target)
                (Raising.Triple.pure fun _ h => ⟨h, rfl⟩) fun dir => by
                  rintro fs ⟨h, rfl⟩
                  exact hwrite _ hkind hplace fs h
          | cons part below =>
              rw [hparts]
              refine Raising.Triple.bind ((makedirs_inside (Or.inr
                ⟨rfl, (part :: below).dropLast, rfl⟩)).conseq hroot (fun _ _ h => h)
                fun _ _ h => h) fun dir => ?_
              rintro fs ⟨h, hinside, -⟩
              exact hwrite _ hkind (hinside.append [last]) fs h

theorem extractAll_confined (htarget : fs₀.node target = some .directory)
    (haccepted : ∀ m ∈ members, AcceptedMember root m)
    (haligned : ∀ m ∈ members, Aligned members m) {earlier written : List Member}
    (hearlier : ∀ m ∈ earlier, m ∈ members) (hwritten : ∀ m ∈ written, m ∈ members) :
    KeepsConfined root members target fs₀ (extractAll limit target earlier written) := by
  induction written generalizing earlier with
  | nil => exact Raising.Triple.pure fun _ h => h
  | cons m written ih =>
      rw [List.forall_mem_cons] at hwritten
      exact Raising.Triple.bind
        (extractMember_confined htarget hearlier haccepted haligned hwritten.1)
        fun _ => ih (List.forall_mem_cons.mpr ⟨hwritten.1, hearlier⟩) hwritten.2

end Archive

/-- What the extraction of an archive may do: outside of the root no path is created or changed, and
every link of the archive leads into the root. -/
structure StaysInside (target : PathParts) (root : String) (members : List Member)
    (fs₀ fs : Disk) : Prop where
  nodes : ∀ path, ¬ Inside target root path → fs.node path = fs₀.node path
  contents : ∀ path inode, ¬ Inside target root path → fs.node path = some (.file inode) →
    fs.content inode = fs₀.content inode
  symlinks : ∀ path steps, Inside target root path → fs.node path = some (.symlink steps) →
    ∀ strict limit place, fs.follow strict limit path.dropLast steps = some place →
      Inside target root place
  hardlinks : ∀ m ∈ members, ∀ link, m.kind = .hardlink link →
    ∀ strict limit place, fs.follow strict limit target (pathSteps link) = some place →
      Inside target root place

/-- A disk with an empty directory `/srv/bundle`. -/
def emptyDisk : Disk where
  node := fun path =>
    if path <+: ["srv", "bundle"] then some .directory else none
  content := fun _ => none
  next := 0
  fresh := fun path inode h => by split at h <;> cases h

theorem emptyDisk_empty (name : String) (below : PathParts) :
    emptyDisk.node (["srv", "bundle"] ++ name :: below) = none := by
  have hlong : ¬ ["srv", "bundle"] ++ name :: below <+: ["srv", "bundle"] := fun hprefix => by
    have hlength := hprefix.length_le
    simp at hlength
  simp only [emptyDisk, if_neg hlong]

/-- A link back to the root, and a second link behind it. -/
def nestedLinks : List Member :=
  [⟨"python/a/b/c", .symlink "../.."⟩, ⟨"python/a/b/c/x", .symlink "../../../y"⟩]

theorem nestedLinks_accepted :
    safeArchiveMembers nestedLinks "python" true = .ok nestedLinks := by
  decide

/-- What the second link is extracted to, and where it leads. -/
theorem nestedLinks_extracted :
    (extractAll 40 ["srv", "bundle"] [] nestedLinks emptyDisk).2.node
        ["srv", "bundle", "python", "x"] = some (.symlink [.up, .up, .up, .down "y"]) ∧
      (extractAll 40 ["srv", "bundle"] [] nestedLinks emptyDisk).2.follow false 40
        ["srv", "bundle", "python", "x"].dropLast [.up, .up, .up, .down "y"] = some ["y"] := by
  decide +kernel

/-- A program, a link to it beside it, and a hard link to it. -/
def runtimeMembers : List Member :=
  [⟨"python/bin", .directory⟩, ⟨"python/bin/python3.11", .file [127]⟩,
    ⟨"python/bin/python3", .symlink "python3.11"⟩, ⟨"python/lib", .directory⟩,
    ⟨"python/lib/python", .symlink "../bin/python3"⟩,
    ⟨"python/copy", .hardlink "python/bin/python3.11"⟩]

end NetStrike.Scripts
