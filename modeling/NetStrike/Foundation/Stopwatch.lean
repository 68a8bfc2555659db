import Mathlib.Algebra.Order.Floor.Ring

/-!
# Stopwatches

A stopwatch counts the time between readings of a clock, except while it is held. `Mark` is one
thing that is done to it, `marks` the stopwatch after a list of marks, and `total` what it has
counted at a reading. Looking at it changes nothing (`marks_eq_of_filter`).

`Shows whole fraction x` says that an integer and a remainder in `[0, 1)` represent `x`;
`Shows.add` is the carry when time is added.
-/

set_option autoImplicit false

namespace NetStrike.Foundation

universe u

variable {R : Type u}

/-! ## Marks -/

/-- What is done to a stopwatch, with the reading of the clock. -/
inductive Mark (R : Type u) where
  | start (now : R)
  | look (now : R)
  | hold (now : R)
  | go (now : R)
  | jump (target now : R)

namespace Mark

/-- The reading of the clock. -/
def now : Mark R → R
  | start now => now
  | look now => now
  | hold now => now
  | go now => now
  | jump _ now => now

/-- The mark is more than a look. -/
def acts : Mark R → Bool
  | look _ => false
  | _ => true

end Mark

/-- A stopwatch: what it was last set to, the stretches counted since, and the reading at which the
current stretch began. -/
structure Stopwatch (R : Type u) where
  base : R
  closed : R
  opened : Option R

namespace Stopwatch

variable [AddCommGroup R]

/-- The time of the current stretch at a reading. -/
def stretch (s : Stopwatch R) (now : R) : R :=
  match s.opened with
  | some since => now - since
  | none => 0

/-- What the stopwatch has counted at a reading. -/
def total (s : Stopwatch R) (now : R) : R := s.base + s.closed + s.stretch now

/-- The stopwatch after a mark. -/
def mark (s : Stopwatch R) : Mark R → Stopwatch R
  | .start now => ⟨0, 0, some now⟩
  | .look _ => s
  | .hold now => ⟨s.base, s.closed + s.stretch now, none⟩
  | .go now => ⟨s.base, s.closed, some now⟩
  | .jump target now => ⟨target, 0, some now⟩

/-- The stopwatch after a list of marks. -/
def marks (s : Stopwatch R) (ms : List (Mark R)) : Stopwatch R := ms.foldl mark s

@[simp] theorem marks_nil (s : Stopwatch R) : s.marks [] = s := rfl

@[simp] theorem marks_cons (s : Stopwatch R) (m : Mark R) (ms : List (Mark R)) :
    s.marks (m :: ms) = (s.mark m).marks ms := rfl

/-- A stopwatch that has not been started. -/
def fresh : Stopwatch R := ⟨0, 0, none⟩

theorem total_start (s : Stopwatch R) (now : R) : (s.mark (.start now)).total now = 0 := by
  simp [mark, total, stretch]

theorem total_jump (s : Stopwatch R) (target now : R) :
    (s.mark (.jump target now)).total now = target := by
  simp [mark, total, stretch]

theorem total_hold (s : Stopwatch R) (now : R) :
    (s.mark (.hold now)).total now = s.total now := by
  show s.base + (s.closed + s.stretch now) + 0 = s.base + s.closed + s.stretch now
  rw [add_zero, add_assoc]

/-- A held stopwatch counts nothing. -/
theorem total_of_held {s : Stopwatch R} (h : s.opened = none) (r now : R) :
    s.total now = s.total r := by
  simp [total, stretch, h]

theorem total_go {s : Stopwatch R} (h : s.opened = none) (r now : R) :
    (s.mark (.go now)).total now = s.total r := by
  simp [mark, total, stretch, h]

/-- A running stopwatch counts the time between two readings. -/
theorem total_of_running {s : Stopwatch R} (h : s.opened.isSome) (r now : R) :
    s.total now = s.total r + (now - r) := by
  obtain ⟨since, hsince⟩ := Option.isSome_iff_exists.mp h
  simp only [total, stretch, hsince]
  abel

/-- Looks can be left out. -/
theorem marks_filter (s : Stopwatch R) (ms : List (Mark R)) :
    s.marks (ms.filter Mark.acts) = s.marks ms := by
  induction ms generalizing s with
  | nil => rfl
  | cons m ms ih =>
      cases m with
      | look now => exact ih s
      | start | hold | go | jump => exact ih _

/-- Lists of marks that differ in looks only lead to the same stopwatch. -/
theorem marks_eq_of_filter (s : Stopwatch R) {ms ms' : List (Mark R)}
    (h : ms.filter Mark.acts = ms'.filter Mark.acts) : s.marks ms = s.marks ms' := by
  rw [← marks_filter s ms, h, marks_filter]

end Stopwatch

/-! ## Whole seconds and the rest -/

variable [Ring R] [LinearOrder R] [IsStrictOrderedRing R] [FloorRing R]

/-- `x` in whole units and a rest below one unit. -/
structure Shows (whole : ℤ) (rest x : R) : Prop where
  eq : (whole : R) + rest = x
  nonneg : 0 ≤ rest
  lt_one : rest < 1

namespace Shows

variable {whole : ℤ} {rest x : R}

theorem whole_eq (h : Shows whole rest x) : whole = ⌊x⌋ := by
  rw [eq_comm, Int.floor_eq_iff, ← h.eq]
  exact ⟨le_add_of_nonneg_right h.nonneg, by simpa using h.lt_one⟩

theorem rest_eq (h : Shows whole rest x) : rest = Int.fract x := by
  rw [← h.eq, Int.fract_intCast_add, eq_comm, Int.fract_eq_self]
  exact ⟨h.nonneg, h.lt_one⟩

omit [IsStrictOrderedRing R] in
theorem of_int (n : ℤ) : Shows n (0 : R) n := ⟨add_zero _, le_rfl, zero_lt_one⟩

/-- The carry: whole units of the rest go to the whole part. -/
theorem add (h : Shows whole rest x) (d : R) :
    Shows (whole + ⌊rest + d⌋) (rest + d - ⌊rest + d⌋) (x + d) := by
  refine ⟨?_, Int.fract_nonneg _, Int.fract_lt_one _⟩
  rw [← h.eq]
  push_cast
  abel

end Shows

end NetStrike.Foundation
