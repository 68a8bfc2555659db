import Mathlib.Data.List.DropRight
import NetStrike.Scripts.BundleArchives

/-!
# What the check of a link means

A link that `_safe_archive_members` accepts leads under the expected root when its path is read by
names alone (`anchored_of_checkLink`).
-/

set_option autoImplicit false

namespace NetStrike.Scripts

open NetStrike.Foundation NetStrike.Foundation.Checked NetStrike.Foundation.LinkedFiles

/-! ## Normal paths -/

/-- Leading dots stay in front. -/
theorem head?_normStep {comps : List String} (h : comps.head? = some "..") (comp : String) :
    (normStep comps comp).head? = some ".." := by
  unfold normStep
  split_ifs with hstay hpush
  · exact h
  · cases comps with
    | nil => cases h
    | cons first rest => exact h
  · push Not at hpush
    cases comps with
    | nil => cases h
    | cons first rest =>
        cases rest with
        | nil => exact absurd h hpush.2.2
        | cons second rest => exact h

theorem head?_foldl_normStep {comps : List String} (h : comps.head? = some "..")
    (more : List String) : (more.foldl normStep comps).head? = some ".." := by
  induction more generalizing comps with
  | nil => exact h
  | cons comp more ih => exact ih (head?_normStep h comp)

/-- A normal path is read by names alone, or it starts with two dots. -/
theorem lexical_or_head?_normStep {place : List String} (hplace : ".." ∉ place)
    (comps : List String) :
    lexical place (comps.map stepOf) = some (comps.foldl normStep place) ∨
      (lexical place (comps.map stepOf) = none ∧
        (comps.foldl normStep place).head? = some "..") := by
  induction comps generalizing place with
  | nil => exact Or.inl rfl
  | cons comp comps ih =>
      rw [List.map_cons, List.foldl_cons, stepOf]
      by_cases hstay : comp = "" ∨ comp = "."
      · rw [normStep, if_pos hstay, if_pos hstay]
        exact ih hplace
      · rw [normStep, if_neg hstay, if_neg hstay]
        by_cases hup : comp = ".."
        · subst hup
          have hlast : place.getLast? ≠ some ".." := fun heq =>
            hplace (List.mem_of_getLast? heq)
          cases place with
          | nil =>
              rw [if_pos (by simp)]
              exact Or.inr ⟨rfl, head?_foldl_normStep rfl comps⟩
          | cons part parts =>
              rw [if_pos rfl, if_neg (by simp [hlast])]
              exact ih fun hmem => hplace (List.mem_of_mem_dropLast hmem)
        · rw [if_neg hup, if_pos (Or.inl hup)]
          refine ih fun hmem => ?_
          rcases List.mem_append.mp hmem with hmem | hmem
          · exact hplace hmem
          · exact hup (List.mem_singleton.mp hmem).symm

/-- Components without two dots are put behind what is there. -/
theorem foldl_normStep_of_notMem {comps : List String} (h : ".." ∉ comps) (place : List String) :
    comps.foldl normStep place = place ++ comps.filter fun part => part ≠ "" ∧ part ≠ "." := by
  induction comps generalizing place with
  | nil => exact (List.append_nil place).symm
  | cons comp comps ih =>
      rw [List.mem_cons, not_or] at h
      rw [List.foldl_cons, normStep, List.filter_cons]
      by_cases hstay : comp = "" ∨ comp = "."
      · rw [if_pos hstay, ih h.2, if_neg]
        rcases hstay with rfl | rfl <;> decide
      · rw [if_neg hstay, if_pos (Or.inl (Ne.symm h.1)), ih h.2, if_pos]
        · simp
        · simpa [not_or] using hstay

/-- The components of a normal path are names of paths. -/
theorem mem_foldl_normStep {comps place : List String} {part : String}
    (h : part ∈ comps.foldl normStep place) : part ∈ place ∨ (part ∈ comps ∧ part ≠ "") := by
  induction comps generalizing place with
  | nil => exact Or.inl h
  | cons comp comps ih =>
      rcases ih h with hmem | ⟨hmem, hne⟩
      · unfold normStep at hmem
        split_ifs at hmem with hstay hpush
        · exact Or.inl hmem
        · rcases List.mem_append.mp hmem with hmem | hmem
          · exact Or.inl hmem
          · rw [List.mem_singleton] at hmem
            subst hmem
            exact Or.inr ⟨List.mem_cons_self, fun heq => hstay (Or.inl heq)⟩
        · exact Or.inl (List.mem_of_mem_dropLast hmem)
      · exact Or.inr ⟨List.mem_cons_of_mem _ hmem, hne⟩

/-- The components of the text of a normal path. -/
theorem components_normpath {value : String}
    (hne : (components value).foldl normStep [] ≠ []) :
    components (normpath value) = (components value).foldl normStep [] := by
  cases hcomps : (components value).foldl normStep [] with
  | nil => exact absurd hcomps hne
  | cons first rest =>
      have hslash : ∀ part ∈ (first :: rest).map String.toList, '/' ∉ part := by
        intro part hpart
        obtain ⟨name, hname, rfl⟩ := List.mem_map.mp hpart
        rw [← hcomps] at hname
        rcases mem_foldl_normStep hname with hmem | ⟨hmem, -⟩
        · exact nomatch hmem
        · obtain ⟨text, htext, rfl⟩ := List.mem_map.mp hmem
          rw [String.toList_ofList]
          exact notMem_of_mem_split htext
      have hid : String.ofList ∘ String.toList = id := funext fun _ => String.ofList_toList
      rw [normpath, hcomps, asPosix, components, String.toList_ofList,
        split_join (by simp) hslash, List.map_map, hid, List.map_id]

/-! ## Accepted links -/

/-- A legal first part of an accepted path. -/
theorem legal_head {name root : String} {path : PathParts} (h : safeRelativePath name = .ok path)
    (hroot : path.head? = some root) : root ≠ "" ∧ root ≠ "." ∧ root ≠ ".." := by
  obtain ⟨hsafe, rfl⟩ := safeRelativePath_eq_ok h
  have hmem : root ∈ posixParts name := List.mem_of_head? hroot
  have hparts : ∀ part ∈ posixParts name, ¬ (part = "" ∨ part = "." ∨ part = "..") := by
    intro part hpart hbad
    exact hsafe (Or.inr (Or.inr (Or.inr (Or.inr (Or.inr ⟨part, hpart, hbad⟩)))))
  simpa [not_or] using hparts root hmem

/-- **An accepted link leads under the root** when its path is read by names alone. -/
theorem lexical_of_checkLink {root name link path : String} {u : Unit}
    (hroot : root ≠ "." ∧ root ≠ "..") (h : checkLink root name link path = .ok u) :
    ∃ below, lexical [] (pathSteps path) = some (root :: below) := by
  obtain ⟨_, -, h⟩ := bind_eq_ok h
  have hcheck := require_eq_ok h
  push Not at hcheck
  have hhead := hcheck.2.2
  by_cases hnil : (components path).foldl normStep [] = []
  · rw [normpath, hnil] at hhead
    exact absurd (Option.some.inj hhead).symm hroot.1
  · rw [components_normpath hnil] at hhead
    rcases lexical_or_head?_normStep (List.not_mem_nil) (components path) with hlex | ⟨-, hdots⟩
    · cases hcomps : (components path).foldl normStep [] with
      | nil => exact absurd hcomps hnil
      | cons first below =>
          rw [hcomps] at hhead hlex
          obtain rfl : first = root := Option.some.inj hhead
          exact ⟨below, hlex⟩
    · rw [hdots] at hhead
      exact absurd (Option.some.inj hhead).symm hroot.2

/-! ## The directory of a member -/

theorem components_append (a b : List Char) :
    components (String.ofList (a ++ '/' :: b)) =
      components (String.ofList a) ++ components (String.ofList b) := by
  simp only [components, String.toList_ofList, split_append_sep, List.map_append]

theorem posixParts_eq (value : String) :
    posixParts value = (components value).filter fun part => part ≠ "" ∧ part ≠ "." := rfl

/-- Slashes at the end add no part. -/
theorem posixParts_rdropWhile (cs : List Char) :
    posixParts (String.ofList (cs.rdropWhile fun c => c == '/')) = posixParts (String.ofList cs) := by
  induction cs using List.reverseRecOn with
  | nil => rfl
  | append_singleton cs c ih =>
      by_cases hc : c = '/'
      · subst hc
        have hempty : (components (String.ofList [])).filter
            (fun part => part ≠ "" ∧ part ≠ ".") = [] := by decide
        rw [List.rdropWhile_concat_pos _ _ _ rfl, ih, posixParts_eq, posixParts_eq,
          components_append, List.filter_append, hempty, List.append_nil]
      · rw [List.rdropWhile_concat_neg _ _ _ (by simpa using hc)]

/-- A name is its directory part and its last component. -/
theorem components_eq (name : String) :
    (name.toList.rdropWhile (fun c => c != '/') = [] ∧ components name = [name]) ∨
      ∃ above last, name.toList.rdropWhile (fun c => c != '/') = above ++ ['/'] ∧
        name.toList = above ++ '/' :: last ∧
        components name = components (String.ofList above) ++ [String.ofList last] := by
  have hparts : name.toList.rdropWhile (fun c => c != '/') ++
      name.toList.rtakeWhile (fun c => c != '/') = name.toList :=
    List.rdropWhile_append_rtakeWhile
  have htail : '/' ∉ name.toList.rtakeWhile (fun c => c != '/') := fun hmem =>
    absurd (List.mem_rtakeWhile_imp hmem) (by decide)
  cases hhead : (name.toList.rdropWhile fun c => c != '/') using List.reverseRecOn with
  | nil =>
      rw [hhead, List.nil_append] at hparts
      rw [hparts] at htail
      refine Or.inl ⟨rfl, ?_⟩
      rw [components, split_of_notMem htail, List.map_singleton, String.ofList_toList]
  | append_singleton above c _ =>
      have hlast := List.rdropWhile_last_not (fun c => c != '/') name.toList
        (by rw [hhead]; simp)
      simp only [hhead, List.getLast_append_singleton, bne_iff_ne, ne_eq, not_not] at hlast
      subst hlast
      rw [hhead, List.append_assoc, List.singleton_append] at hparts
      generalize (name.toList.rtakeWhile fun c => c != '/') = last at hparts htail
      have hname : name = String.ofList (above ++ '/' :: last) := by
        rw [hparts, String.ofList_toList]
      have hlast : components (String.ofList last) = [String.ofList last] := by
        rw [components, String.toList_ofList, split_of_notMem htail, List.map_singleton]
      refine Or.inr ⟨above, last, rfl, hparts.symm, ?_⟩
      rw [congrArg components hname, components_append, hlast]

theorem dirname_eq (name : String) :
    dirname name =
      if (name.toList.rdropWhile fun c => c != '/').all (fun c => c == '/') = true then
        String.ofList (name.toList.rdropWhile fun c => c != '/')
      else
        String.ofList
          ((name.toList.rdropWhile fun c => c != '/').rdropWhile fun c => c == '/') := rfl

theorem filter_part {part : String} (hne : part ≠ "") (hdot : part ≠ ".") :
    [part].filter (fun part => part ≠ "" ∧ part ≠ ".") = [part] :=
  List.filter_cons_of_pos (decide_eq_true ⟨hne, hdot⟩)

/-- The directory part of a member that is no directory, when its name has no slash at its end and
does not end in a dot. -/
theorem posixParts_dirname {name : String} (hsafe : ¬ Unsafe name)
    (hslash : name.toList.getLast? ≠ some '/') (hdot : (components name).getLast? ≠ some ".") :
    posixParts (dirname name) = (posixParts name).dropLast ∧
      (posixParts name).getLast? = (components name).getLast? ∧
      (dirname name).toList.getLast? ≠ some '/' := by
  have hne : name ≠ "" := fun heq => hsafe (by rw [heq]; decide)
  rcases components_eq name with ⟨hhead, hcomps⟩ | ⟨above, last, hhead, hname, hcomps⟩
  · have hdir : dirname name = "" := by
      rw [dirname_eq, hhead]
      rfl
    have hkept : posixParts name = [name] := by
      rw [hcomps] at hdot
      rw [posixParts_eq, hcomps, filter_part hne fun heq => hdot (congrArg some heq)]
    have hempty : posixParts "" = [] := by decide
    rw [hdir, hkept, hcomps, hempty]
    exact ⟨rfl, rfl, by decide⟩
  · have hlast : String.ofList last ≠ "" := by
      intro heq
      have hnil : last = [] := by
        rw [← String.toList_ofList (l := last), heq]
        rfl
      rw [hname, hnil] at hslash
      exact hslash (by simp)
    have hlastdot : String.ofList last ≠ "." := fun heq => hdot (by
      rw [hcomps, heq, List.getLast?_concat])
    have hkept : posixParts name =
        posixParts (String.ofList above) ++ [String.ofList last] := by
      rw [posixParts_eq, hcomps, List.filter_append, ← posixParts_eq, filter_part hlast hlastdot]
    -- a directory part of slashes only would make the name absolute
    have hall : ¬ ((above ++ ['/']).all fun c => c == '/') = true := by
      intro hall
      refine hsafe (Or.inl ?_)
      rw [isAbsolute, hname]
      cases above with
      | nil => rfl
      | cons c above =>
          have hc : c = '/' := by simpa using (List.all_eq_true.mp hall) c List.mem_cons_self
          rw [hc]
          rfl
    have hdir : dirname name = String.ofList ((above ++ ['/']).rdropWhile fun c => c == '/') := by
      rw [dirname_eq, hhead, if_neg hall]
    have hempty : posixParts (String.ofList []) = [] := by decide
    refine ⟨?_, ?_, ?_⟩
    · rw [hdir, posixParts_rdropWhile, hkept, List.dropLast_concat, posixParts_eq,
        components_append, List.filter_append, ← posixParts_eq, ← posixParts_eq, hempty,
        List.append_nil]
    · rw [hkept, hcomps, List.getLast?_concat, List.getLast?_concat]
    · rw [hdir, String.toList_ofList]
      intro hend
      have hnil : (above ++ ['/']).rdropWhile (fun c => c == '/') ≠ [] := fun heq => by
        rw [heq] at hend
        cases hend
      rw [List.getLast?_eq_some_getLast hnil] at hend
      exact List.rdropWhile_last_not _ _ hnil (by rw [Option.some.inj hend]; rfl)

/-- A part of an accepted path is no pair of dots. -/
theorem dots_notMem {name : String} (hsafe : ¬ Unsafe name) : ".." ∉ posixParts name := fun hmem =>
  hsafe (Or.inr (Or.inr (Or.inr (Or.inr (Or.inr ⟨"..", hmem, Or.inr (Or.inr rfl)⟩)))))

/-- The normal path of an accepted path. -/
theorem foldl_normStep_name {value : String} (h : ".." ∉ posixParts value) :
    (components value).foldl normStep [] = posixParts value := by
  have hcomps : ".." ∉ components value := fun hmem =>
    h (List.mem_filter.mpr ⟨hmem, by decide⟩)
  rw [foldl_normStep_of_notMem hcomps, List.nil_append, posixParts_eq]

/-- A path that is walked by names ends at its normal path. -/
theorem foldl_normStep_of_lexical {value : String} {named : PathParts}
    (h : lexical [] (pathSteps value) = some named) :
    (components value).foldl normStep [] = named := by
  rcases lexical_or_head?_normStep List.not_mem_nil (components value) with hlex | ⟨hlex, -⟩
  · exact Option.some.inj (hlex.symm.trans h)
  · cases hlex.symm.trans h

/-- A path without two dots is walked to its parts. -/
theorem lexical_pathSteps {value : String} (h : ".." ∉ posixParts value) :
    lexical [] (pathSteps value) = some (posixParts value) := by
  have hfold := foldl_normStep_name h
  rcases lexical_or_head?_normStep List.not_mem_nil (components value) with hlex | ⟨-, hdots⟩
  · rw [pathSteps, hlex, hfold]
  · rw [hfold] at hdots
    exact absurd (List.mem_of_head? hdots) h

/-- **A link is resolved from the directory of its member.** -/
theorem lexical_joinPath {name link : String} (hsafe : ¬ Unsafe name)
    (hslash : name.toList.getLast? ≠ some '/') (hdot : (components name).getLast? ≠ some ".")
    (hlink : link.toList.head? ≠ some '/') :
    lexical [] (pathSteps (joinPath (dirname name) link)) =
      lexical (posixParts name).dropLast (pathSteps link) := by
  obtain ⟨hdir, -, hend⟩ := posixParts_dirname hsafe hslash hdot
  have hdots : ".." ∉ posixParts (dirname name) := fun hmem =>
    dots_notMem hsafe (List.mem_of_mem_dropLast (hdir ▸ hmem))
  rw [joinPath, if_neg hlink]
  by_cases hempty : dirname name = ""
  · have hnil : posixParts "" = [] := by decide
    rw [if_pos (Or.inl hempty), hempty, String.empty_append, ← hdir, hempty, hnil]
  · rw [if_neg (not_or.mpr ⟨hempty, hend⟩)]
    have htext : dirname name ++ "/" ++ link =
        String.ofList ((dirname name).toList ++ '/' :: link.toList) := by
      rw [← String.toList_inj]
      simp
    rw [pathSteps, htext, components_append, List.map_append, String.ofList_toList,
      String.ofList_toList, lexical_append]
    have hhead := lexical_pathSteps hdots
    rw [pathSteps] at hhead
    rw [hhead, hdir]
    rfl

end NetStrike.Scripts
