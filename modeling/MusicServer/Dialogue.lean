/-
# Dialogues with a party outside

A dialogue is a computation that asks questions and goes on with whatever it is told.  What
the other party is, whether it remembers anything and whether it is consistent, is left
open: a run is any list of exchanges that the dialogue can go through.

* `Dialogue.runs_bind`: a run of two dialogues in a row is a run of each;
* `Dialogue.Keeps`: what every run of a dialogue keeps to, composed by `Keeps.bind` and
  `Keeps.foldlM`.
-/
import Mathlib.Data.List.Basic

inductive Dialogue (Q : Type) (A : Q → Type) (α : Type) where
  | done (result : α)
  | ask (question : Q) (next : A question → Dialogue Q A α)

abbrev Exchange {Q : Type} (A : Q → Type) := (question : Q) × A question

namespace Dialogue

variable {Q : Type} {A : Q → Type} {α β σ : Type}

/-! ## Building dialogues -/

def bind : Dialogue Q A α → (α → Dialogue Q A β) → Dialogue Q A β
  | .done a, f => f a
  | .ask q next, f => .ask q fun answer => (next answer).bind f

instance : Monad (Dialogue Q A) where
  pure := .done
  bind := bind

def question (q : Q) : Dialogue Q A (A q) := .ask q .done

@[simp] theorem done_bind (a : α) (f : α → Dialogue Q A β) : (.done a : Dialogue Q A α) >>= f = f a :=
  rfl

@[simp] theorem ask_bind (q : Q) (next : A q → Dialogue Q A α) (f : α → Dialogue Q A β) :
    Dialogue.ask q next >>= f = .ask q fun answer => next answer >>= f := rfl

/-! ## Runs -/

/-- The dialogue can go through these exchanges, in this order, and end with this result. -/
inductive Runs : Dialogue Q A α → List (Exchange A) → α → Prop
  | done (a : α) : Runs (.done a) [] a
  | ask {q : Q} {next : A q → Dialogue Q A α} (answer : A q) {trace : List (Exchange A)} {a : α}
      (rest : Runs (next answer) trace a) : Runs (.ask q next) (⟨q, answer⟩ :: trace) a

theorem runs_done {a b : α} {trace : List (Exchange A)} :
    Runs (.done a) trace b ↔ trace = [] ∧ b = a := by
  constructor
  · intro h
    cases h
    exact ⟨rfl, rfl⟩
  · rintro ⟨rfl, rfl⟩
    exact .done b

theorem runs_ask {q : Q} {next : A q → Dialogue Q A α} {trace : List (Exchange A)} {a : α} :
    Runs (.ask q next) trace a ↔
      ∃ answer rest, trace = ⟨q, answer⟩ :: rest ∧ Runs (next answer) rest a := by
  constructor
  · intro h
    cases h with
    | ask answer rest => exact ⟨answer, _, rfl, rest⟩
  · rintro ⟨answer, rest, rfl, hrest⟩
    exact .ask answer hrest

theorem runs_question_bind {q : Q} {f : A q → Dialogue Q A β} {trace : List (Exchange A)} {b : β} :
    Runs (question q >>= f) trace b ↔
      ∃ answer rest, trace = ⟨q, answer⟩ :: rest ∧ Runs (f answer) rest b :=
  runs_ask

theorem runs_bind {p : Dialogue Q A α} {f : α → Dialogue Q A β} {trace : List (Exchange A)} {b : β} :
    Runs (p >>= f) trace b ↔
      ∃ first a second, trace = first ++ second ∧ Runs p first a ∧ Runs (f a) second b := by
  induction p generalizing trace with
  | done a =>
    rw [done_bind]
    constructor
    · intro h
      exact ⟨[], a, trace, rfl, .done a, h⟩
    · rintro ⟨first, a', second, rfl, hfirst, hsecond⟩
      rw [runs_done] at hfirst
      obtain ⟨rfl, rfl⟩ := hfirst
      exact hsecond
  | ask q next ih =>
    rw [ask_bind, runs_ask]
    constructor
    · rintro ⟨answer, rest, rfl, hrest⟩
      obtain ⟨first, a, second, rfl, hfirst, hsecond⟩ := (ih answer).mp hrest
      exact ⟨_ :: first, a, second, rfl, .ask answer hfirst, hsecond⟩
    · rintro ⟨first, a, second, rfl, hfirst, hsecond⟩
      obtain ⟨answer, rest, rfl, hrest⟩ := runs_ask.mp hfirst
      exact ⟨answer, rest ++ second, rfl, (ih answer).mpr ⟨rest, a, second, rfl, hrest, hsecond⟩⟩

/-! ## What every run keeps to -/

/-- In every run each exchange is one of those allowed, and the result is as promised. -/
def Keeps (allowed : Exchange A → Prop) (promised : α → Prop) (p : Dialogue Q A α) : Prop :=
  ∀ trace a, p.Runs trace a → (∀ exchange ∈ trace, allowed exchange) ∧ promised a

variable {allowed : Exchange A → Prop} {promised : α → Prop} {wanted : β → Prop}

theorem keeps_pure {a : α} (h : promised a) : (pure a : Dialogue Q A α).Keeps allowed promised := by
  intro trace b hruns
  obtain ⟨rfl, rfl⟩ := runs_done.mp hruns
  exact ⟨by simp, h⟩

theorem Keeps.bind {p : Dialogue Q A α} {f : α → Dialogue Q A β} (hp : p.Keeps allowed promised)
    (hf : ∀ a, promised a → (f a).Keeps allowed wanted) : (p >>= f).Keeps allowed wanted := by
  intro trace b hruns
  obtain ⟨first, a, second, rfl, hfirst, hsecond⟩ := runs_bind.mp hruns
  obtain ⟨hallowed, hpromised⟩ := hp first a hfirst
  obtain ⟨hallowed', hwanted⟩ := hf a hpromised second b hsecond
  refine ⟨?_, hwanted⟩
  intro exchange hexchange
  rcases List.mem_append.mp hexchange with h | h
  · exact hallowed exchange h
  · exact hallowed' exchange h

theorem keeps_question_bind {q : Q} {f : A q → Dialogue Q A β}
    (hallowed : ∀ answer, allowed ⟨q, answer⟩) (hf : ∀ answer, (f answer).Keeps allowed wanted) :
    (question q >>= f).Keeps allowed wanted := by
  intro trace b hruns
  obtain ⟨answer, rest, rfl, hrest⟩ := runs_question_bind.mp hruns
  obtain ⟨hrest', hwanted⟩ := hf answer rest b hrest
  exact ⟨List.forall_mem_cons.mpr ⟨hallowed answer, hrest'⟩, hwanted⟩

theorem Keeps.foldlM {ι : Type} {f : α → ι → Dialogue Q A α}
    (hf : ∀ a i, promised a → (f a i).Keeps allowed promised) (l : List ι) {a : α}
    (ha : promised a) : (l.foldlM f a).Keeps allowed promised := by
  induction l generalizing a with
  | nil => exact keeps_pure ha
  | cons i l ih =>
    rw [List.foldlM_cons]
    exact (hf a i ha).bind fun a' ha' => ih ha'

end Dialogue
