import Mathlib.Data.List.Nodup

/-!
# Directory listings

A directory is the list of its entries in the order in which it is listed; an entry is a file with
its contents or another directory. Paths are lists of names.

`walk` names everything below a directory, `files` its files only, and `read` opens a path.
`mem_files_iff` says that in a listing whose directories hold distinct names the files found are
exactly the paths that can be read.
-/

set_option autoImplicit false

namespace NetStrike.Foundation

universe u v

/-- The entries of a directory. -/
inductive Listing (κ : Type u) (β : Type v) where
  | nil
  | file (name : κ) (content : β) (rest : Listing κ β)
  | directory (name : κ) (inner rest : Listing κ β)
deriving DecidableEq

namespace Listing

variable {κ : Type u} {β : Type v}

/-- The names of the entries of the directory itself. -/
def names : Listing κ β → List κ
  | nil => []
  | file name _ rest => name :: names rest
  | directory name _ rest => name :: names rest

/-- No directory holds two entries of one name. -/
def Distinct : Listing κ β → Prop
  | nil => True
  | file name _ rest => name ∉ rest.names ∧ Distinct rest
  | directory name inner rest => name ∉ rest.names ∧ Distinct inner ∧ Distinct rest

/-- A property of the names of all entries, at any depth. -/
def EveryName (p : κ → Prop) : Listing κ β → Prop
  | nil => True
  | file name _ rest => p name ∧ EveryName p rest
  | directory name inner rest => p name ∧ EveryName p inner ∧ EveryName p rest

instance instDecidableDistinct [DecidableEq κ] :
    (t : Listing κ β) → Decidable t.Distinct
  | nil => isTrue trivial
  | file _ _ rest => @instDecidableAnd _ _ _ (instDecidableDistinct rest)
  | directory _ inner rest =>
      @instDecidableAnd _ _ _
        (@instDecidableAnd _ _ (instDecidableDistinct inner) (instDecidableDistinct rest))

instance instDecidableEveryName (p : κ → Prop) [DecidablePred p] :
    (t : Listing κ β) → Decidable (t.EveryName p)
  | nil => isTrue trivial
  | file _ _ rest => @instDecidableAnd _ _ _ (instDecidableEveryName p rest)
  | directory _ inner rest =>
      @instDecidableAnd _ _ _
        (@instDecidableAnd _ _ (instDecidableEveryName p inner) (instDecidableEveryName p rest))

/-- Everything below the directory `parent`, directories without contents, in the order of a walk
that lists a directory before what it holds. -/
def walk (parent : List κ) : Listing κ β → List (List κ × Option β)
  | nil => []
  | file name content rest => (parent ++ [name], some content) :: walk parent rest
  | directory name inner rest =>
      (parent ++ [name], none) :: (walk (parent ++ [name]) inner ++ walk parent rest)

/-- The files below the directory `parent`. -/
def files (parent : List κ) : Listing κ β → List (List κ × β)
  | nil => []
  | file name content rest => (parent ++ [name], content) :: files parent rest
  | directory name inner rest => files (parent ++ [name]) inner ++ files parent rest

/-- The contents of the file at a path. -/
def read [DecidableEq κ] : Listing κ β → List κ → Option β
  | nil, _ => none
  | file name content rest, path => if path = [name] then some content else read rest path
  | directory _ _ rest, [] => read rest []
  | directory name inner rest, part :: path =>
      if part = name then read inner path else read rest (part :: path)

/-- Write a file into the directory itself: a file of that name gets new contents, a directory of
that name is in the way. -/
def put [DecidableEq κ] (name : κ) (content : β) : Listing κ β → Option (Listing κ β)
  | nil => some (file name content nil)
  | file first old rest =>
      if first = name then some (file first content rest)
      else (put name content rest).map (file first old)
  | directory first inner rest =>
      if first = name then none else (put name content rest).map (directory first inner)

/-- The directory itself holds a directory of this name. -/
def HasDirectory (name : κ) : Listing κ β → Prop
  | nil => False
  | file _ _ rest => HasDirectory name rest
  | directory first _ rest => first = name ∨ HasDirectory name rest

instance instDecidableHasDirectory [DecidableEq κ] (name : κ) :
    (t : Listing κ β) → Decidable (t.HasDirectory name)
  | nil => isFalse id
  | file _ _ rest => instDecidableHasDirectory name rest
  | directory _ _ rest => @instDecidableOr _ _ _ (instDecidableHasDirectory name rest)

/-- The number of entries, at any depth. -/
def entries : Listing κ β → Nat
  | nil => 0
  | file _ _ rest => entries rest + 1
  | directory _ inner rest => entries inner + entries rest + 1

/-- The number of directories below a directory. -/
def directories : Listing κ β → Nat
  | nil => 0
  | file _ _ rest => directories rest
  | directory _ inner rest => directories inner + directories rest + 1

/-- How many directories deep the listing goes. -/
def depth : Listing κ β → Nat
  | nil => 0
  | file _ _ rest => depth rest
  | directory _ inner rest => max (depth inner + 1) (depth rest)

-- The lemmas below follow the recursion of these functions.
attribute [local simp] names Distinct EveryName walk files read put HasDirectory

/-! ## The files of a walk -/

/-- The files are what is left of a walk without the directories. -/
theorem filterMap_walk (parent : List κ) (t : Listing κ β) :
    ((t.walk parent).filterMap fun entry => entry.2.map fun content => (entry.1, content)) =
      t.files parent := by
  induction t generalizing parent with
  | nil => rfl
  | file name content rest ih =>
      rw [walk, List.filterMap_cons_some (by rfl), ih, files]
  | directory name inner rest ihinner ih =>
      rw [walk, List.filterMap_cons_none (by rfl), List.filterMap_append, ihinner, ih, files]

/-- Walking from a longer path only lengthens the paths found. -/
theorem files_append (above parent : List κ) (t : Listing κ β) :
    t.files (above ++ parent) = (t.files parent).map fun entry => (above ++ entry.1, entry.2) := by
  induction t generalizing parent with
  | nil => rfl
  | file name content rest ih =>
      rw [files, files, ih, List.map_cons, List.append_assoc]
  | directory name inner rest ihinner ih =>
      rw [files, files, ih, List.append_assoc, ihinner, List.map_append]

/-- The files below `parent` are the files of the listing, with `parent` before their paths. -/
theorem files_eq_map (parent : List κ) (t : Listing κ β) :
    t.files parent = (t.files []).map fun entry => (parent ++ entry.1, entry.2) := by
  have h := files_append parent [] t
  rwa [List.append_nil] at h

theorem files_directory (name : κ) (inner rest : Listing κ β) :
    (directory name inner rest).files [] =
      ((inner.files []).map fun entry => (name :: entry.1, entry.2)) ++ rest.files [] := by
  rw [files, files_eq_map ([] ++ [name]) inner]
  rfl

/-- The path of a file starts with a name of its directory. -/
theorem exists_cons_of_mem_files {t : Listing κ β} {entry : List κ × β}
    (h : entry ∈ t.files []) : ∃ name path, entry.1 = name :: path ∧ name ∈ t.names := by
  induction t with
  | nil => exact nomatch h
  | file name content rest ih =>
      rcases List.mem_cons.mp h with rfl | h
      · exact ⟨name, [], rfl, List.mem_cons_self⟩
      · obtain ⟨first, path, heq, hmem⟩ := ih h
        exact ⟨first, path, heq, List.mem_cons_of_mem _ hmem⟩
  | directory name inner rest ihinner ih =>
      rw [files_directory] at h
      rcases List.mem_append.mp h with h | h
      · obtain ⟨below, -, rfl⟩ := List.mem_map.mp h
        exact ⟨name, below.1, rfl, List.mem_cons_self⟩
      · obtain ⟨first, path, heq, hmem⟩ := ih h
        exact ⟨first, path, heq, List.mem_cons_of_mem _ hmem⟩

/-- Every name on the path of a file is a name of the listing. -/
theorem EveryName.of_mem_files {p : κ → Prop} {t : Listing κ β} (ht : t.EveryName p)
    {entry : List κ × β} (h : entry ∈ t.files []) : ∀ name ∈ entry.1, p name := by
  induction t generalizing entry with
  | nil => exact nomatch h
  | file name content rest ih =>
      rcases List.mem_cons.mp h with rfl | h
      · intro part hpart
        rw [List.mem_singleton.mp hpart]
        exact ht.1
      · exact ih ht.2 h
  | directory name inner rest ihinner ih =>
      rw [files_directory] at h
      rcases List.mem_append.mp h with h | h
      · obtain ⟨below, hbelow, rfl⟩ := List.mem_map.mp h
        exact List.forall_mem_cons.mpr ⟨ht.1, ihinner ht.2.1 hbelow⟩
      · exact ih ht.2.2 h

theorem HasDirectory.mem_names {name : κ} {t : Listing κ β} (h : t.HasDirectory name) :
    name ∈ t.names := by
  induction t with
  | nil => exact h.elim
  | file first old rest ih => exact List.mem_cons_of_mem _ (ih h)
  | directory first inner rest _ ih =>
      rcases h with rfl | h
      · exact List.mem_cons_self
      · exact List.mem_cons_of_mem _ (ih h)

/-! ## Reading -/

section Read

variable [DecidableEq κ]

/-- A path that starts with no name of the directory is not there. -/
theorem read_eq_none {t : Listing κ β} {name : κ} (h : name ∉ t.names) (path : List κ) :
    t.read (name :: path) = none := by
  induction t with
  | nil => rfl
  | file first content rest ih =>
      rw [names, List.mem_cons, not_or] at h
      rw [read, if_neg (fun heq => h.1 (List.cons.inj heq).1), ih h.2]
  | directory first inner rest ihinner ih =>
      rw [names, List.mem_cons, not_or] at h
      rw [read, if_neg h.1, ih h.2]

/-- No file is the directory itself. -/
theorem read_nil (t : Listing κ β) : t.read [] = none := by
  induction t with
  | nil => rfl
  | file first content rest ih => rw [read, if_neg (List.cons_ne_nil _ _).symm, ih]
  | directory first inner rest ihinner ih => rw [read, ih]

/-- **The files found are the paths that can be read.** -/
theorem mem_files_iff {t : Listing κ β} (ht : t.Distinct) (path : List κ) (content : β) :
    (path, content) ∈ t.files [] ↔ t.read path = some content := by
  induction t generalizing path with
  | nil => simp
  | file name found rest ih =>
      rw [files, List.nil_append, List.mem_cons, ih ht.2]
      by_cases heq : path = [name]
      · subst heq
        rw [read, if_pos rfl, read_eq_none ht.1]
        simp [eq_comm]
      · rw [read, if_neg heq]
        simp [heq]
  | directory name inner rest ihinner ih =>
      rw [files_directory, List.mem_append, ih ht.2.2]
      have hinside : (path, content) ∈
            (inner.files []).map (fun entry => (name :: entry.1, entry.2)) ↔
          ∃ below, path = name :: below ∧ inner.read below = some content := by
        simp only [List.mem_map, Prod.mk.injEq, Prod.exists]
        constructor
        · rintro ⟨below, found, hmem, rfl, rfl⟩
          exact ⟨below, rfl, (ihinner ht.2.1 below).mp hmem⟩
        · rintro ⟨below, rfl, hread⟩
          exact ⟨below, content, (ihinner ht.2.1 below).mpr hread, rfl, rfl⟩
      rw [hinside]
      cases path with
      | nil => simp
      | cons part below =>
          by_cases heq : part = name
          · subst heq
            rw [read, if_pos rfl, read_eq_none ht.1]
            simp
          · rw [read, if_neg heq]
            simp [heq]

/-- A file has one content. -/
theorem files_unique {t : Listing κ β} (ht : t.Distinct) {path : List κ} {a b : β}
    (ha : (path, a) ∈ t.files []) (hb : (path, b) ∈ t.files []) : a = b := by
  rw [mem_files_iff ht] at ha hb
  exact Option.some.inj (ha.symm.trans hb)

/-! ## Writing -/

/-- **Reading after writing**: the new file is there, and every other path is as it was. -/
theorem read_put {name : κ} {content : β} {t t' : Listing κ β} (h : t.put name content = some t')
    (path : List κ) : t'.read path = if path = [name] then some content else t.read path := by
  induction t generalizing t' with
  | nil =>
      rw [← Option.some.inj h]
      rfl
  | file first old rest ih =>
      rw [put] at h
      by_cases hname : first = name
      · rw [if_pos hname] at h
        rw [← Option.some.inj h, read, read, hname]
        split_ifs <;> rfl
      · rw [if_neg hname] at h
        obtain ⟨rest', hrest, rfl⟩ := Option.map_eq_some_iff.mp h
        rw [read, read, ih hrest]
        by_cases hpath : path = [first]
        · rw [if_pos hpath, if_pos hpath, if_neg]
          rintro rfl
          exact hname (List.cons.inj hpath).1.symm
        · rw [if_neg hpath, if_neg hpath]
  | directory first inner rest _ ih =>
      rw [put] at h
      by_cases hname : first = name
      · rw [if_pos hname] at h
        cases h
      · rw [if_neg hname] at h
        obtain ⟨rest', hrest, rfl⟩ := Option.map_eq_some_iff.mp h
        cases path with
        | nil => rw [read_nil, read_nil, if_neg (List.cons_ne_nil _ _).symm]
        | cons part below =>
            rw [read, read, ih hrest]
            by_cases hpart : part = first
            · rw [if_pos hpart, if_pos hpart, if_neg]
              intro heq
              exact hname (hpart.symm.trans (List.cons.inj heq).1)
            · rw [if_neg hpart, if_neg hpart]

theorem mem_names_put {name : κ} {content : β} {t t' : Listing κ β}
    (h : t.put name content = some t') {n : κ} (hn : n ∈ t'.names) : n = name ∨ n ∈ t.names := by
  induction t generalizing t' with
  | nil =>
      rw [← Option.some.inj h] at hn
      exact Or.inl (List.mem_singleton.mp hn)
  | file first old rest ih =>
      rw [put] at h
      by_cases hname : first = name
      · rw [if_pos hname] at h
        rw [← Option.some.inj h] at hn
        exact Or.inr hn
      · rw [if_neg hname] at h
        obtain ⟨rest', hrest, rfl⟩ := Option.map_eq_some_iff.mp h
        rcases List.mem_cons.mp hn with rfl | hn
        · exact Or.inr List.mem_cons_self
        · exact (ih hrest hn).imp_right (List.mem_cons_of_mem _)
  | directory first inner rest _ ih =>
      rw [put] at h
      by_cases hname : first = name
      · rw [if_pos hname] at h
        cases h
      · rw [if_neg hname] at h
        obtain ⟨rest', hrest, rfl⟩ := Option.map_eq_some_iff.mp h
        rcases List.mem_cons.mp hn with rfl | hn
        · exact Or.inr List.mem_cons_self
        · exact (ih hrest hn).imp_right (List.mem_cons_of_mem _)

/-- A write keeps the names distinct. -/
theorem Distinct.put {name : κ} {content : β} {t t' : Listing κ β} (ht : t.Distinct)
    (h : t.put name content = some t') : t'.Distinct := by
  induction t generalizing t' with
  | nil =>
      rw [← Option.some.inj h]
      exact ⟨List.not_mem_nil, trivial⟩
  | file first old rest ih =>
      rw [Listing.put] at h
      by_cases hname : first = name
      · rw [if_pos hname] at h
        rw [← Option.some.inj h]
        exact ht
      · rw [if_neg hname] at h
        obtain ⟨rest', hrest, rfl⟩ := Option.map_eq_some_iff.mp h
        refine ⟨fun hmem => ?_, ih ht.2 hrest⟩
        exact (mem_names_put hrest hmem).elim hname ht.1
  | directory first inner rest _ ih =>
      rw [Listing.put] at h
      by_cases hname : first = name
      · rw [if_pos hname] at h
        cases h
      · rw [if_neg hname] at h
        obtain ⟨rest', hrest, rfl⟩ := Option.map_eq_some_iff.mp h
        refine ⟨fun hmem => ?_, ht.2.1, ih ht.2.2 hrest⟩
        exact (mem_names_put hrest hmem).elim hname ht.1

/-- A write under a good name keeps all names good. -/
theorem EveryName.put {p : κ → Prop} {name : κ} {content : β} {t t' : Listing κ β}
    (ht : t.EveryName p) (hname : p name) (h : t.put name content = some t') :
    t'.EveryName p := by
  induction t generalizing t' with
  | nil =>
      rw [← Option.some.inj h]
      exact ⟨hname, trivial⟩
  | file first old rest ih =>
      rw [Listing.put] at h
      split at h
      · rw [← Option.some.inj h]
        exact ht
      · obtain ⟨rest', hrest, rfl⟩ := Option.map_eq_some_iff.mp h
        exact ⟨ht.1, ih ht.2 hrest⟩
  | directory first inner rest _ ih =>
      rw [Listing.put] at h
      split at h
      · cases h
      · obtain ⟨rest', hrest, rfl⟩ := Option.map_eq_some_iff.mp h
        exact ⟨ht.1, ht.2.1, ih ht.2.2 hrest⟩

/-- A write fails exactly when a directory is in the way. -/
theorem put_eq_none_iff {name : κ} (content : β) {t : Listing κ β} (ht : t.Distinct) :
    t.put name content = none ↔ t.HasDirectory name := by
  induction t with
  | nil => exact ⟨fun h => (nomatch h), fun h => h.elim⟩
  | file first old rest ih =>
      rw [put]
      by_cases hname : first = name
      · rw [if_pos hname]
        refine ⟨fun h => (nomatch h), fun h => ?_⟩
        exact absurd (hname ▸ HasDirectory.mem_names h) ht.1
      · rw [if_neg hname, Option.map_eq_none_iff]
        exact ih ht.2
  | directory first inner rest _ ih =>
      rw [put]
      by_cases hname : first = name
      · rw [if_pos hname]
        exact ⟨fun _ => Or.inl hname, fun _ => rfl⟩
      · rw [if_neg hname, Option.map_eq_none_iff, ih ht.2.2]
        exact ⟨Or.inr, fun h => h.resolve_left hname⟩

end Read

/-- No file is found twice. -/
theorem nodup_paths {t : Listing κ β} (ht : t.Distinct) :
    ((t.files []).map Prod.fst).Nodup := by
  induction t with
  | nil => exact List.nodup_nil
  | file name content rest ih =>
      refine List.nodup_cons.mpr ⟨fun hmem => ?_, ih ht.2⟩
      obtain ⟨entry, hentry, heq⟩ := List.mem_map.mp hmem
      obtain ⟨first, path, hpath, hfirst⟩ := exists_cons_of_mem_files hentry
      rw [hpath] at heq
      exact ht.1 ((List.cons.inj heq).1 ▸ hfirst)
  | directory name inner rest ihinner ih =>
      rw [files_directory, List.map_append, List.map_map]
      have hsplit : (fun entry : List κ × β => entry.1) ∘
          (fun entry : List κ × β => (name :: entry.1, entry.2)) =
            (fun path => name :: path) ∘ Prod.fst := rfl
      rw [hsplit, ← List.map_map]
      refine List.Nodup.append ((ihinner ht.2.1).map (List.cons_injective)) (ih ht.2.2) ?_
      intro path hinside hbeside
      obtain ⟨below, -, rfl⟩ := List.mem_map.mp hinside
      obtain ⟨entry, hentry, heq⟩ := List.mem_map.mp hbeside
      obtain ⟨first, path, hpath, hfirst⟩ := exists_cons_of_mem_files hentry
      rw [hpath] at heq
      exact ht.1 ((List.cons.inj heq).1 ▸ hfirst)

end Listing

end NetStrike.Foundation
