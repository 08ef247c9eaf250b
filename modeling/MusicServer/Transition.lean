/-
# Labelled transition systems, finite runs and guarded invariants

A system is a set of start states and a labelled step relation.  A run is the list
of labels it took, each with the state it led to.  Two rules carry every result about
whole runs in this development:

* `System.Reachable.invariant`: what holds at the start and is kept by a step holds
  of every reachable state;
* `System.IsRun.forall_states_iff`: where a step keeps a predicate exactly when a
  guard on the state and the label holds, a run keeps it throughout exactly when
  every step of the run meets the guard.
-/
import Mathlib.Data.List.Basic

universe u v w

namespace Transition

/-- A labelled transition system over states `σ` and labels `α`. -/
structure System (σ : Type u) (α : Type v) where
  init : σ → Prop
  step : σ → α → σ → Prop

namespace System

variable {σ : Type u} {α : Type v} {τ : Type w}

/-! ## Reachable states -/

/-- The states a system can be in after finitely many steps. -/
inductive Reachable (S : System σ α) : σ → Prop where
  | init {s : σ} (h : S.init s) : Reachable S s
  | step {s s' : σ} {a : α} (hs : Reachable S s) (h : S.step s a s') : Reachable S s'

variable {S : System σ α}

theorem Reachable.invariant {P : σ → Prop} (hinit : ∀ s, S.init s → P s)
    (hstep : ∀ s a s', P s → S.step s a s' → P s') {s : σ} (hs : S.Reachable s) : P s := by
  induction hs with
  | init h => exact hinit _ h
  | step _ h ih => exact hstep _ _ _ ih h

/-! ## Runs -/

/-- `S.IsRun s run`: from `s`, each label of `run` takes the system to the state
beside it. -/
def IsRun (S : System σ α) : σ → List (α × σ) → Prop
  | _, [] => True
  | s, (a, s') :: rest => S.step s a s' ∧ S.IsRun s' rest

/-- The states a run passes through, its start included. -/
def states (s : σ) (run : List (α × σ)) : List σ := s :: run.map Prod.snd

/-- The steps of a run: source, label, target. -/
def steps : σ → List (α × σ) → List (σ × α × σ)
  | _, [] => []
  | s, (a, s') :: rest => (s, a, s') :: steps s' rest

def finish : σ → List (α × σ) → σ
  | s, [] => s
  | _, (_, s') :: rest => finish s' rest

@[simp] theorem states_nil (s : σ) : states s ([] : List (α × σ)) = [s] := rfl

@[simp] theorem states_cons (s : σ) (a : α) (s' : σ) (rest : List (α × σ)) :
    states s ((a, s') :: rest) = s :: states s' rest := rfl

@[simp] theorem steps_nil (s : σ) : steps s ([] : List (α × σ)) = [] := rfl

@[simp] theorem steps_cons (s : σ) (a : α) (s' : σ) (rest : List (α × σ)) :
    steps s ((a, s') :: rest) = (s, a, s') :: steps s' rest := rfl

variable {run : List (α × σ)}

theorem IsRun.step_of_mem {s : σ} (hrun : S.IsRun s run) :
    ∀ t ∈ steps s run, S.step t.1 t.2.1 t.2.2 := by
  induction run generalizing s with
  | nil => simp
  | cons head rest ih =>
    obtain ⟨a, s'⟩ := head
    intro t ht
    rw [steps_cons, List.mem_cons] at ht
    rcases ht with rfl | ht
    · exact hrun.1
    · exact ih hrun.2 t ht

/-- The guarded invariant rule for runs: a predicate that every step meeting the guard
keeps holds throughout a run all of whose steps meet the guard. -/
theorem IsRun.forall_states {P : σ → Prop} {G : σ → α → Prop}
    (hstep : ∀ s a s', P s → S.step s a s' → G s a → P s') {s : σ} (hrun : S.IsRun s run) (hs : P s)
    (hguard : ∀ t ∈ steps s run, G t.1 t.2.1) : ∀ q ∈ states s run, P q := by
  induction run generalizing s with
  | nil => simpa using hs
  | cons head rest ih =>
    obtain ⟨a, s'⟩ := head
    have hs' : P s' := hstep s a s' hs hrun.1 (hguard (s, a, s') (by simp))
    intro q hq
    rw [states_cons, List.mem_cons] at hq
    rcases hq with rfl | hq
    · exact hs
    · exact ih hrun.2 hs' (fun t ht => hguard t (by simp [ht])) q hq

theorem IsRun.forall_states_iff {P : σ → Prop} {G : σ → α → Prop}
    (hstep : ∀ s a s', P s → S.step s a s' → (P s' ↔ G s a)) {s : σ} (hrun : S.IsRun s run)
    (hs : P s) :
    (∀ q ∈ states s run, P q) ↔ ∀ t ∈ steps s run, G t.1 t.2.1 := by
  constructor
  · intro hall
    induction run generalizing s with
    | nil => simp
    | cons head rest ih =>
      obtain ⟨a, s'⟩ := head
      have hs' : P s' := hall s' (by simp [states])
      intro t ht
      rw [steps_cons, List.mem_cons] at ht
      rcases ht with rfl | ht
      · exact (hstep s a s' hs hrun.1).mp hs'
      · exact ih hrun.2 hs' (fun q hq => hall q (by simp [hq])) t ht
  · exact hrun.forall_states (fun s a s' h hst hg => (hstep s a s' h hst).mpr hg) hs

theorem IsRun.reachable {s : σ} (hrun : S.IsRun s run) (hs : S.Reachable s) :
    ∀ q ∈ states s run, S.Reachable q :=
  have hstep : ∀ s a s', S.Reachable s → S.step s a s' → True → S.Reachable s' :=
    fun _ _ _ h hst _ => h.step hst
  hrun.forall_states hstep hs fun _ _ => trivial

/-- The run of a partial step function over a list of labels, up to the first label it
refuses. -/
def replay (exec : σ → α → Option σ) : σ → List α → List (α × σ)
  | _, [] => []
  | s, a :: rest =>
    match exec s a with
    | none => []
    | some s' => (a, s') :: replay exec s' rest

theorem isRun_replay {exec : σ → α → Option σ}
    (hexec : ∀ s a s', exec s a = some s' → S.step s a s') (s : σ) (labels : List α) :
    S.IsRun s (replay exec s labels) := by
  induction labels generalizing s with
  | nil => trivial
  | cons a rest ih =>
    unfold replay
    split
    · trivial
    · next s' hs' => exact ⟨hexec s a s' hs', ih s'⟩

theorem label_mem_of_replay {exec : σ → α → Option σ} {s : σ} {labels : List α} :
    ∀ t ∈ steps s (replay exec s labels), t.2.1 ∈ labels := by
  induction labels generalizing s with
  | nil =>
    intro t ht
    cases ht
  | cons a rest ih =>
    unfold replay
    split
    · intro t ht
      cases ht
    · next s' hs' =>
      intro t ht
      rw [steps_cons, List.mem_cons] at ht
      rcases ht with rfl | ht
      · exact List.mem_cons_self
      · exact List.mem_cons_of_mem a (ih t ht)

theorem finish_mem_states (s : σ) (run : List (α × σ)) : finish s run ∈ states s run := by
  induction run generalizing s with
  | nil => simp [finish]
  | cons head rest ih =>
    obtain ⟨a, s'⟩ := head
    exact List.mem_cons_of_mem _ (ih s')

theorem source_mem_states {s : σ} :
    ∀ t ∈ steps s run, t.1 ∈ states s run := by
  induction run generalizing s with
  | nil => simp
  | cons head rest ih =>
    obtain ⟨a, s'⟩ := head
    intro t ht
    rw [steps_cons, List.mem_cons] at ht
    rcases ht with rfl | ht
    · simp [states]
    · exact List.mem_cons_of_mem _ (ih t ht)

end System

end Transition
