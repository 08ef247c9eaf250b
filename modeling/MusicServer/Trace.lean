/-
# Traces whose events are justified by what came before

A trace is the list of what a component did to the outside, oldest first.  It is causal
for a relation between a history and an event when the relation holds of every event and
the events before it.  A causal trace grows by events that are justified when they are
appended; nothing appended later can take the justification of an earlier event away.
-/
import Mathlib.Data.List.Basic

universe u

namespace Trace

variable {ε : Type u} {ok : List ε → ε → Prop}

/-- Every event of the trace is justified by the events before it. -/
def Causal (ok : List ε → ε → Prop) (trace : List ε) : Prop :=
  ∀ before event after, trace = before ++ event :: after → ok before event

theorem causal_nil : Causal ok [] := by
  intro before event after h
  have hlength := congrArg List.length h
  simp at hlength

theorem causal_concat {trace : List ε} {event : ε} :
    Causal ok (trace ++ [event]) ↔ Causal ok trace ∧ ok trace event := by
  constructor
  · intro h
    constructor
    · intro before e after htrace
      refine h before e (after ++ [event]) ?_
      rw [htrace, List.append_assoc, List.cons_append]
    · exact h trace event [] rfl
  · rintro ⟨htrace, hevent⟩ before e after hsplit
    rcases List.eq_nil_or_concat after with rfl | ⟨rest, last, rfl⟩
    · -- The event in question is the one appended.
      obtain ⟨rfl, hlast⟩ := List.append_inj' hsplit rfl
      cases hlast
      exact hevent
    · rw [List.concat_eq_append, ← List.cons_append, ← List.append_assoc] at hsplit
      obtain ⟨hinit, -⟩ := List.append_inj' hsplit rfl
      exact htrace before e rest hinit

theorem Causal.append {trace events : List ε} (h : Causal ok trace)
    (hevents : ∀ before, ∀ event ∈ events, ok before event) : Causal ok (trace ++ events) := by
  induction events generalizing trace with
  | nil => rwa [List.append_nil]
  | cons event rest ih =>
    rw [List.append_cons]
    apply ih
    · rw [causal_concat]
      exact ⟨h, hevents trace event List.mem_cons_self⟩
    · intro before e he
      exact hevents before e (List.mem_cons_of_mem event he)

end Trace
