import NetStrike.Scripts.BundleTrees

/-!
# Safe relative paths

`_safe_relative_path` of `scripts/offline_bundle.py`, with `PurePosixPath` as far as it is used: the
parts of a path are what stands between its slashes, without empty parts and single dots.
-/

set_option autoImplicit false

namespace NetStrike.Scripts

open NetStrike.Foundation

/-- `PurePosixPath.is_absolute`. -/
def isAbsolute (value : String) : Bool := value.toList.head? == some '/'

/-- `PurePosixPath.parts`, of a relative path. -/
def posixParts (value : String) : PathParts :=
  ((split '/' value.toList).map String.ofList).filter fun part => part ≠ "" ∧ part ≠ "."

/-- What `_safe_relative_path` refuses. -/
def Unsafe (value : String) : Prop :=
  isAbsolute value = true ∨ '\\' ∈ value.toList ∨ '\x00' ∈ value.toList ∨ ':' ∈ value.toList ∨
    posixParts value = [] ∨ ∃ part ∈ posixParts value, part = "" ∨ part = "." ∨ part = ".."

instance (value : String) : Decidable (Unsafe value) :=
  inferInstanceAs (Decidable (_ ∨ _ ∨ _ ∨ _ ∨ _ ∨ _))

/-- `_safe_relative_path`. -/
def safeRelativePath (value : String) : Except Refusal PathParts :=
  if Unsafe value then .error (.value ("unsafe bundle path: " ++ value)) else .ok (posixParts value)

theorem safeRelativePath_eq_ok {value : String} {path : PathParts}
    (h : safeRelativePath value = .ok path) : ¬ Unsafe value ∧ path = posixParts value := by
  unfold safeRelativePath at h
  split at h
  · cases h
  · next hsafe => exact ⟨hsafe, (Except.ok.inj h).symm⟩

/-- The parts of the posix text of a path are the path. -/
theorem posixParts_asPosix {path : PathParts} (hne : path ≠ [])
    (hlegal : ∀ name ∈ path, LegalName name) : posixParts (asPosix path) = path := by
  have hslash : ∀ part ∈ path.map String.toList, '/' ∉ part := by
    intro part hpart
    obtain ⟨name, hname, rfl⟩ := List.mem_map.mp hpart
    exact (hlegal name hname).2.2.2.1
  have htext : (asPosix path).toList = join '/' (path.map String.toList) := by
    cases path with
    | nil => exact absurd rfl hne
    | cons part path => exact String.toList_ofList
  have hsplit : split '/' (asPosix path).toList = path.map String.toList := by
    rw [htext, split_join (by simpa using hne) hslash]
  have hback : (path.map String.toList).map String.ofList = path := by
    have hid : String.ofList ∘ String.toList = id := funext fun _ => String.ofList_toList
    rw [List.map_map, hid, List.map_id]
  rw [posixParts, hsplit, hback, List.filter_eq_self]
  intro name hname
  have h := hlegal name hname
  exact decide_eq_true ⟨h.1, h.2.1⟩

/-- A path of legal names that is accepted at all is accepted as it is. -/
theorem safeRelativePath_asPosix {path found : PathParts} (hne : path ≠ [])
    (hlegal : ∀ name ∈ path, LegalName name) (h : safeRelativePath (asPosix path) = .ok found) :
    found = path := by
  rw [(safeRelativePath_eq_ok h).2, posixParts_asPosix hne hlegal]

end NetStrike.Scripts
