/-
# Dead-reckoned clocks

A clock is a stored position and, while it ticks, the instant the position was taken
at.  Reading it adds the time since that anchor, up to a cap.  The rules below say
which operations a reader at the same instant cannot tell apart: materialising,
freezing a ticking clock, and starting a stopped one.
-/
import Mathlib.Algebra.Order.Sub.Basic
import Mathlib.Algebra.Order.Sub.Defs

namespace DeadReckoning

/-- A position, with the instant it was taken at while the clock is ticking. -/
structure Clock (T : Type*) where
  position : T
  anchor : Option T

namespace Clock

section Ops

variable {T : Type*} [LinearOrder T] [Add T] [Sub T] (cap : T)

/-- Move the anchor up to `now`, adding the elapsed time to the position. -/
def materialize (c : Clock T) (now : T) : Clock T :=
  match c.anchor with
  | none => c
  | some anchor =>
    if anchor < now then ⟨min (c.position + (now - anchor)) cap, some now⟩ else c

def read (c : Clock T) (now : T) : T := (c.materialize cap now).position

/-- Stop the clock at the position it shows at `now`. -/
def freeze (c : Clock T) (now : T) : Clock T := ⟨c.read cap now, none⟩

end Ops

section Rules

variable {T : Type*} [LinearOrder T] [Add T] [Sub T] {cap : T}

@[simp] theorem read_stopped (p now : T) : read cap ⟨p, none⟩ now = p := rfl

@[simp] theorem read_anchored (p now : T) : read cap ⟨p, some now⟩ now = p := by
  simp [read, materialize]

theorem read_of_le {p a now : T} (h : now ≤ a) : read cap ⟨p, some a⟩ now = p := by
  simp [read, materialize, not_lt.mpr h]

theorem read_of_lt {p a now : T} (h : a < now) :
    read cap ⟨p, some a⟩ now = min (p + (now - a)) cap := by
  simp [read, materialize, h]

@[simp] theorem read_freeze (c : Clock T) (now later : T) :
    (c.freeze cap now).read cap later = c.read cap now := rfl

@[simp] theorem anchor_freeze (c : Clock T) (now : T) : (c.freeze cap now).anchor = none := rfl

theorem read_start {c : Clock T} (hstopped : c.anchor = none) (now : T) :
    read cap ⟨c.position, some now⟩ now = c.read cap now := by
  obtain ⟨p, a⟩ := c
  subst hstopped
  rw [read_anchored, read_stopped]

/-- Re-anchoring a ticking clock at `now` without materialising it loses exactly the
time that had elapsed: a reader at `now` sees the same position only where the clock
had not advanced. -/
theorem read_reanchor_eq_iff {p a now : T} :
    read cap ⟨p, some now⟩ now = read cap ⟨p, some a⟩ now ↔
      now ≤ a ∨ p = min (p + (now - a)) cap := by
  rw [read_anchored]
  rcases lt_or_ge a now with h | h
  · rw [read_of_lt h]
    exact ⟨Or.inr, fun hor => hor.resolve_left (not_le.mpr h)⟩
  · rw [read_of_le h]
    exact ⟨fun _ => Or.inl h, fun _ => rfl⟩

end Rules

end Clock

end DeadReckoning
