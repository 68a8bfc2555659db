import Mathlib.Data.List.Infix
import Mathlib.Logic.Function.Basic

/-!
# File systems with symbolic links

A file system maps absolute paths to nodes. `follow` walks a sequence of steps from a directory and
follows every symbolic link it meets; `lexical` walks the same steps by their names alone. `Clear`
says that no step up is taken after a link.

`follow_inside` is the containment result: when each link below a directory leads, by the names
alone, to a place under `root`, and goes up only where the names can be trusted, then whatever is
reached along the links lies under `root`.
-/

set_option autoImplicit false

namespace NetStrike.Foundation

universe u

/-- One component of a path: an empty one or a dot, two dots, or a name. -/
inductive PathStep (κ : Type u) where
  | stay
  | up
  | down (name : κ)
deriving DecidableEq

/-- What a path leads to; a link holds the steps to its target, relative to its directory. -/
inductive FileNode (κ : Type u) where
  | directory
  | file (inode : Nat)
  | symlink (target : List (PathStep κ))
deriving DecidableEq

/-- A file system; the contents of a file are kept with its inode. -/
structure LinkedFiles (κ β : Type u) where
  node : List κ → Option (FileNode κ)
  content : Nat → Option β
  next : Nat
  fresh : ∀ path inode, node path = some (.file inode) → inode < next

namespace LinkedFiles

variable {κ β : Type u}

/-- The place that the steps lead to from a directory, within a limit on the steps taken. A strict
walk goes on from existing directories only. -/
def follow (fs : LinkedFiles κ β) [DecidableEq κ] (strict : Bool) :
    Nat → List κ → List (PathStep κ) → Option (List κ)
  | 0, _, _ => none
  | _ + 1, dir, [] => some dir
  | limit + 1, dir, step :: rest =>
      if strict = true ∧ fs.node dir ≠ some .directory then none
      else
        match step with
        | .stay => follow fs strict limit dir rest
        | .up => follow fs strict limit dir.dropLast rest
        | .down name =>
            match fs.node (dir ++ [name]) with
            | some (.symlink target) => follow fs strict limit dir (target ++ rest)
            | _ => follow fs strict limit (dir ++ [name]) rest

-- The lemmas on `follow` take it one step at a time.
attribute [local simp] follow

section Follow

variable [DecidableEq κ] {fs : LinkedFiles κ β} {strict : Bool} {limit : Nat} {dir place : List κ}
  {rest : List (PathStep κ)}

theorem follow_stay (h : fs.follow strict (limit + 1) dir (.stay :: rest) = some place) :
    fs.follow strict limit dir rest = some place := by
  rw [follow] at h
  split at h
  · cases h
  · exact h

theorem follow_up (h : fs.follow strict (limit + 1) dir (.up :: rest) = some place) :
    fs.follow strict limit dir.dropLast rest = some place := by
  rw [follow] at h
  split at h
  · cases h
  · exact h

/-- A step to a name goes along the link of that name, or to the name itself. -/
theorem follow_down {name : κ}
    (h : fs.follow strict (limit + 1) dir (.down name :: rest) = some place) :
    (∃ target, fs.node (dir ++ [name]) = some (.symlink target) ∧
        fs.follow strict limit dir (target ++ rest) = some place) ∨
      ((∀ target, fs.node (dir ++ [name]) ≠ some (.symlink target)) ∧
        fs.follow strict limit (dir ++ [name]) rest = some place) := by
  rw [follow] at h
  split at h
  · cases h
  · split at h
    · next target hnode => exact Or.inl ⟨target, hnode, h⟩
    · next hnode => exact Or.inr ⟨hnode, h⟩

end Follow

/-! ## Updates -/

section Update

variable [DecidableEq κ]

/-- Put a node at a path. -/
def setNode (fs : LinkedFiles κ β) (path : List κ) (node : Option (FileNode κ))
    (h : ∀ inode, node = some (.file inode) → inode < fs.next) : LinkedFiles κ β where
  node := Function.update fs.node path node
  content := fs.content
  next := fs.next
  fresh := fun found inode hfound => by
    by_cases heq : found = path
    · rw [heq, Function.update_self] at hfound
      exact h inode hfound
    · rw [Function.update_of_ne heq] at hfound
      exact fs.fresh found inode hfound

/-- Make a new file. -/
def create (fs : LinkedFiles κ β) (path : List κ) (content : β) : LinkedFiles κ β where
  node := Function.update fs.node path (some (.file fs.next))
  content := Function.update fs.content fs.next (some content)
  next := fs.next + 1
  fresh := fun found inode hfound => by
    by_cases heq : found = path
    · rw [heq, Function.update_self, Option.some.injEq, FileNode.file.injEq] at hfound
      omega
    · rw [Function.update_of_ne heq] at hfound
      exact Nat.lt_succ_of_lt (fs.fresh found inode hfound)

/-- Replace the contents of a file. -/
def overwrite (fs : LinkedFiles κ β) (inode : Nat) (content : β) : LinkedFiles κ β where
  node := fs.node
  content := Function.update fs.content inode (some content)
  next := fs.next
  fresh := fs.fresh

variable {fs : LinkedFiles κ β} {path other : List κ} {node : Option (FileNode κ)}

theorem setNode_self (h : ∀ inode, node = some (.file inode) → inode < fs.next) :
    (fs.setNode path node h).node path = node := Function.update_self _ _ _

theorem setNode_of_ne (h : ∀ inode, node = some (.file inode) → inode < fs.next)
    (hne : other ≠ path) : (fs.setNode path node h).node other = fs.node other :=
  Function.update_of_ne hne _ _

theorem create_self (content : β) : (fs.create path content).node path = some (.file fs.next) :=
  Function.update_self _ _ _

theorem create_of_ne (content : β) (hne : other ≠ path) :
    (fs.create path content).node other = fs.node other := Function.update_of_ne hne _ _

end Update

/-! ## Walking by names -/

/-- The place that the steps name, starting at `at_` below some directory; `none` when they leave
it. -/
def lexical : List κ → List (PathStep κ) → Option (List κ)
  | place, [] => some place
  | place, .stay :: rest => lexical place rest
  | [], .up :: _ => none
  | part :: parts, .up :: rest => lexical (part :: parts).dropLast rest
  | place, .down name :: rest => lexical (place ++ [name]) rest

/-- No step up is taken after a step to a place where `links` holds. -/
def Clear (links : List κ → Prop) : List κ → List (PathStep κ) → Prop
  | _, [] => True
  | place, .stay :: rest => Clear links place rest
  | place, .up :: rest => Clear links place.dropLast rest
  | place, .down name :: rest =>
      (.up ∈ rest → ¬ links (place ++ [name])) ∧ Clear links (place ++ [name]) rest

/-- No step leads to a place where `links` holds. -/
def Untouched (links : List κ → Prop) : List κ → List (PathStep κ) → Prop
  | _, [] => True
  | place, .stay :: rest => Untouched links place rest
  | place, .up :: rest => Untouched links place.dropLast rest
  | place, .down name :: rest => ¬ links (place ++ [name]) ∧ Untouched links (place ++ [name]) rest

instance instDecidableClear (links : List κ → Prop) [DecidablePred links] [DecidableEq κ] :
    (place : List κ) → (steps : List (PathStep κ)) → Decidable (Clear links place steps)
  | _, [] => isTrue trivial
  | place, .stay :: rest => instDecidableClear links place rest
  | place, .up :: rest => instDecidableClear links place.dropLast rest
  | place, .down name :: rest =>
      @instDecidableAnd _ _ _ (instDecidableClear links (place ++ [name]) rest)

instance instDecidableUntouched (links : List κ → Prop) [DecidablePred links] :
    (place : List κ) → (steps : List (PathStep κ)) → Decidable (Untouched links place steps)
  | _, [] => isTrue trivial
  | place, .stay :: rest => instDecidableUntouched links place rest
  | place, .up :: rest => instDecidableUntouched links place.dropLast rest
  | place, .down name :: rest =>
      @instDecidableAnd _ _ _ (instDecidableUntouched links (place ++ [name]) rest)

/-- The first steps of steps that touch no link. -/
theorem Untouched.of_append {links : List κ → Prop} {place : List κ}
    {steps rest : List (PathStep κ)} (h : Untouched links place (steps ++ rest)) :
    Untouched links place steps := by
  induction steps generalizing place with
  | nil => trivial
  | cons step steps ih =>
      cases step with
      | stay => exact ih h
      | up => exact ih h
      | down name => exact ⟨h.1, ih h.2⟩

/-- Steps that touch no link take no step up after one. -/
theorem Untouched.clear {links : List κ → Prop} {place : List κ} {steps : List (PathStep κ)}
    (h : Untouched links place steps) : Clear links place steps := by
  induction steps generalizing place with
  | nil => trivial
  | cons step rest ih =>
      cases step with
      | stay => exact ih h
      | up => exact ih h
      | down name => exact ⟨fun _ => h.1, ih h.2⟩

/-- Steps without a step up are clear, whatever they meet. -/
theorem clear_of_notMem {links : List κ → Prop} {place : List κ} {steps : List (PathStep κ)}
    (h : PathStep.up ∉ steps) : Clear links place steps := by
  induction steps generalizing place with
  | nil => trivial
  | cons step rest ih =>
      rw [List.mem_cons, not_or] at h
      cases step with
      | stay => exact ih h.2
      | up => exact absurd rfl h.1
      | down name => exact ⟨fun hup => absurd hup h.2, ih h.2⟩

/-- More steps without a step up keep a walk clear. -/
theorem Clear.append {links : List κ → Prop} {place : List κ} {steps rest : List (PathStep κ)}
    (h : Clear links place steps) (hrest : PathStep.up ∉ rest) :
    Clear links place (steps ++ rest) := by
  induction steps generalizing place with
  | nil => exact clear_of_notMem hrest
  | cons step steps ih =>
      cases step with
      | stay => exact ih h
      | up => exact ih h
      | down name =>
          refine ⟨fun hup => h.1 ?_, ih h.2⟩
          exact (List.mem_append.mp hup).resolve_right hrest

theorem lexical_append (place : List κ) (steps rest : List (PathStep κ)) :
    lexical place (steps ++ rest) = (lexical place steps).bind fun found => lexical found rest := by
  induction steps generalizing place with
  | nil => rfl
  | cons step steps ih =>
      cases step with
      | stay => exact ih place
      | up =>
          cases place with
          | nil => rfl
          | cons part parts => exact ih _
      | down name => exact ih _

/-- Without a step up a walk goes on below where it starts. -/
theorem lexical_of_notMem {steps : List (PathStep κ)} (h : PathStep.up ∉ steps) (place : List κ) :
    ∃ below, lexical place steps = some (place ++ below) := by
  induction steps generalizing place with
  | nil => exact ⟨[], by rw [List.append_nil]; rfl⟩
  | cons step steps ih =>
      rw [List.mem_cons, not_or] at h
      cases step with
      | stay => exact ih h.2 place
      | up => exact absurd rfl h.1
      | down name =>
          obtain ⟨below, heq⟩ := ih h.2 (place ++ [name])
          exact ⟨name :: below, by rw [lexical, heq, List.append_assoc]; rfl⟩

/-! ## Containment -/

section Containment

variable (base : List κ) (root : κ)

/-- The path lies in the directory `root` of `base`. -/
def Inside (path : List κ) : Prop := ∃ below, path = base ++ root :: below

/-- The link at `place` below `base` leads under `root` by its names, and takes no step up after
another link. -/
def Anchored (links : List κ → Prop) (place : List κ) (target : List (PathStep κ)) : Prop :=
  (∃ below, lexical place.dropLast target = some (root :: below)) ∧
    Clear links place.dropLast target

/-- Every link under `root` is one of the known `links`, and anchored; beside `root` there is
nothing in `base`. -/
structure Contained (links : List κ → Prop) (fs : LinkedFiles κ β) : Prop where
  beside : ∀ name below, name ≠ root → fs.node (base ++ name :: below) = none
  known : ∀ below target, fs.node (base ++ root :: below) = some (.symlink target) →
    links (root :: below) ∧ Anchored root links (root :: below) target

/-- The steps from here can be trusted: they take no step up and start under `root`, or their names
lead under `root` and no step up follows a link. -/
def Trusted (links : List κ → Prop) (dir : List κ) (steps : List (PathStep κ)) : Prop :=
  (PathStep.up ∉ steps ∧ Inside base root dir) ∨
    ∃ place below, dir = base ++ place ∧ lexical place steps = some (root :: below) ∧
      Clear links place steps

variable {base root}

theorem Inside.append {dir : List κ} (h : Inside base root dir) (below : List κ) :
    Inside base root (dir ++ below) := by
  obtain ⟨under, rfl⟩ := h
  exact ⟨under ++ below, by simp⟩

variable {links : List κ → Prop}

/-- The link met at `place` is followed by trusted steps. -/
theorem trusted_of_anchored (base : List κ) {place : List κ} {target rest : List (PathStep κ)}
    (h : Anchored root links place target) (hrest : PathStep.up ∉ rest) :
    Trusted base root links (base ++ place.dropLast) (target ++ rest) := by
  obtain ⟨⟨below, hlexical⟩, hclear⟩ := h
  obtain ⟨under, hunder⟩ := lexical_of_notMem hrest (root :: below)
  refine Or.inr ⟨place.dropLast, below ++ under, rfl, ?_, hclear.append hrest⟩
  rw [lexical_append, hlexical]
  exact hunder

variable {fs : LinkedFiles κ β}

/-- A link below `base` is a known one. -/
theorem Contained.of_symlink (hfs : Contained base root links fs) {place : List κ}
    (hne : place ≠ []) {target : List (PathStep κ)}
    (hnode : fs.node (base ++ place) = some (.symlink target)) :
    links place ∧ Anchored root links place target ∧ Inside base root (base ++ place) := by
  cases place with
  | nil => exact absurd rfl hne
  | cons first below =>
      have hfirst : first = root := by
        by_contra hbeside
        rw [hfs.beside first below hbeside] at hnode
        cases hnode
      subst hfirst
      obtain ⟨hlink, hanchored⟩ := hfs.known _ _ hnode
      exact ⟨hlink, hanchored, below, rfl⟩

/-- Trusted steps that meet a link stay trusted along its target. -/
theorem Trusted.target (hfs : Contained base root links fs) {dir : List κ} {name : κ}
    {rest target : List (PathStep κ)} (h : Trusted base root links dir (.down name :: rest))
    (hnode : fs.node (dir ++ [name]) = some (.symlink target)) :
    Trusted base root links dir (target ++ rest) := by
  rcases h with ⟨hup, under, rfl⟩ | ⟨found, below, rfl, -, hclear⟩
  · rw [List.append_assoc, List.cons_append] at hnode
    have htrusted := trusted_of_anchored base (hfs.of_symlink (by simp) hnode).2.1
      (fun hmem => hup (List.mem_cons_of_mem _ hmem))
    rwa [← List.cons_append, List.dropLast_concat] at htrusted
  · rw [List.append_assoc] at hnode
    obtain ⟨hlink, hanchored, -⟩ := hfs.of_symlink (by simp) hnode
    have htrusted := trusted_of_anchored base hanchored
      (fun hmem => hclear.1 hmem hlink)
    rwa [List.dropLast_concat] at htrusted

variable [DecidableEq κ]

/-- **Containment.** Trusted steps lead to a place under `root`. -/
theorem follow_inside (hfs : Contained base root links fs) {strict : Bool} {limit : Nat}
    {dir : List κ} {steps : List (PathStep κ)} (h : Trusted base root links dir steps)
    {place : List κ} (hfollow : fs.follow strict limit dir steps = some place) :
    Inside base root place := by
  induction limit generalizing dir steps with
  | zero => cases hfollow
  | succ limit ih =>
      cases steps with
      | nil =>
          obtain rfl := Option.some.inj hfollow
          rcases h with ⟨-, hinside⟩ | ⟨found, below, rfl, hlexical, -⟩
          · exact hinside
          · exact ⟨below, by rw [Option.some.inj hlexical]⟩
      | cons step rest =>
          cases step with
          | stay =>
              refine ih ?_ (follow_stay hfollow)
              rcases h with ⟨hup, hinside⟩ | ⟨found, below, rfl, hlexical, hclear⟩
              · exact Or.inl ⟨fun hmem => hup (List.mem_cons_of_mem _ hmem), hinside⟩
              · exact Or.inr ⟨found, below, rfl, hlexical, hclear⟩
          | up =>
              rcases h with ⟨hup, -⟩ | ⟨found, below, rfl, hlexical, hclear⟩
              · exact absurd List.mem_cons_self hup
              · cases found with
                | nil => cases hlexical
                | cons part parts =>
                    refine ih (Or.inr ⟨(part :: parts).dropLast, below, ?_, hlexical, hclear⟩)
                      (follow_up hfollow)
                    exact List.dropLast_append_of_ne_nil (List.cons_ne_nil _ _)
          | down name =>
              rcases follow_down hfollow with ⟨target, hnode, hfollow⟩ | ⟨-, hfollow⟩
              · exact ih (h.target hfs hnode) hfollow
              · refine ih ?_ hfollow
                rcases h with ⟨hup, hinside⟩ | ⟨found, below, rfl, hlexical, hclear⟩
                · exact Or.inl ⟨fun hmem => hup (List.mem_cons_of_mem _ hmem),
                    hinside.append [name]⟩
                · exact Or.inr ⟨found ++ [name], below, List.append_assoc _ _ _, hlexical,
                    hclear.2⟩

/-- Steps that touch no link lead where their names lead. -/
theorem follow_untouched (hfs : Contained base root links fs) {strict : Bool} {limit : Nat}
    {place : List κ} {steps : List (PathStep κ)} (h : Untouched links place steps)
    {found named : List κ} (hnamed : lexical place steps = some named)
    (hfollow : fs.follow strict limit (base ++ place) steps = some found) :
    found = base ++ named := by
  induction limit generalizing place steps with
  | zero => cases hfollow
  | succ limit ih =>
      cases steps with
      | nil => rw [← Option.some.inj hfollow, Option.some.inj hnamed]
      | cons step rest =>
          cases step with
          | stay =>
              have hrest : Untouched links place rest := h
              exact ih hrest hnamed (follow_stay hfollow)
          | up =>
              cases place with
              | nil => cases hnamed
              | cons part parts =>
                  have hrest : Untouched links (part :: parts).dropLast rest := h
                  refine ih hrest hnamed ?_
                  rw [← List.dropLast_append_of_ne_nil (List.cons_ne_nil part parts)]
                  exact follow_up hfollow
          | down name =>
              rcases follow_down hfollow with ⟨target, hnode, -⟩ | ⟨-, hfollow⟩
              · rw [List.append_assoc] at hnode
                exact absurd (hfs.of_symlink (by simp) hnode).1 h.1
              · rw [List.append_assoc] at hfollow
                exact ih h.2 hnamed hfollow

end Containment

end LinkedFiles

end NetStrike.Foundation
