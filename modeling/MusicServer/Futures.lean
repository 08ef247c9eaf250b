/-
# Futures that may be dropped

A future is a tree of points at which it asks the shared state for an answer.  Futures run side
by side: any of them may be the next to get its answer, and one that waits at a point where it
may be dropped may be gone instead, with or without the effect of what it waited for.  Where the
shared state is touched under a lock only, a future is verified on its own:

* `Future.Inside`: holding the lock, each answer keeps what the future knows of the state;
* `Future.Outside`: not holding it, the future leaves the state alone until it takes the lock;
* `poolInvariant_step`: of futures verified so, what holds whenever the lock is free is kept.
-/
import MusicServer.Transition

namespace Futures

open Transition

/-- A future over states `σ`, with errors `ε`: a result, or a point and what follows it.  A point
has a label, and its answer and effect depend on a draw; with none of them it goes on waiting. -/
inductive Future (L D σ ε α : Type) : Type 1 where
  | ready (result : Except ε α)
  | point {β : Type} (label : L) (poll : D → σ → Option (β × σ))
      (next : β → Future L D σ ε α)

variable {ι L D σ ε α β : Type}

namespace Future

/-! ## Building futures -/

def bind : Future L D σ ε α → (α → Future L D σ ε β) → Future L D σ ε β
  | .ready (.ok a), f => f a
  | .ready (.error e), _ => .ready (.error e)
  | .point label poll next, f => .point label poll fun answer => (next answer).bind f

instance : Monad (Future L D σ ε) where
  pure a := .ready (.ok a)
  bind := bind

def fail (e : ε) : Future L D σ ε α := .ready (.error e)

def ofExcept (result : Except ε α) : Future L D σ ε α := .ready result

/-- Hands the result to what follows, be it an error. -/
def attempt : Future L D σ ε α → Future L D σ ε (Except ε α)
  | .ready result => .ready (.ok result)
  | .point label poll next => .point label poll fun answer => (next answer).attempt

def ask (label : L) (poll : D → σ → Option (Except ε α × σ)) : Future L D σ ε α :=
  .point label poll .ready

end Future

/-! ## Pools of futures -/

/-- The shared state, and what is left of each task. -/
structure Pool (ι L D σ ε α : Type) where
  shared : σ
  tasks : ι → Option (Future L D σ ε α)

inductive Event (ι L D σ ε α : Type) where
  | start (task : ι) (future : Future L D σ ε α)
  | poll (task : ι) (draw : D)
  /-- The task is gone; a draw says what became of the point it waited at. -/
  | drop (task : ι) (effect : Option D)
  /-- The task is through, and its result handed over. -/
  | finish (task : ι)
  /-- The process is gone, and another one begins. -/
  | restart

/-- Who holds the lock, and how it is given back; where a task may be dropped. -/
structure LockRules (ι L σ : Type) where
  holder : σ → Option ι
  release : ι → σ → σ
  droppable : L → Bool
  holder_release : ∀ s task, holder s = some task → holder (release task s) = none
  release_other : ∀ s task, holder s ≠ some task → release task s = s

namespace Pool

def set [DecidableEq ι] (pool : Pool ι L D σ ε α) (shared : σ) (task : ι) (future : Option (Future L D σ ε α)) :
    Pool ι L D σ ε α :=
  ⟨shared, Function.update pool.tasks task future⟩

end Pool

variable (rules : LockRules ι L σ)

/-- Tasks of the kind `starts` allows, and processes that begin as `begins` says. -/
def poolSystem [DecidableEq ι] (init : Pool ι L D σ ε α → Prop) (starts : σ → ι → Future L D σ ε α → Prop)
    (begins : σ → Pool ι L D σ ε α) : System (Pool ι L D σ ε α) (Event ι L D σ ε α) where
  init := init
  step pool event pool' :=
    match event with
    | .start task future =>
      pool.tasks task = none ∧ starts pool.shared task future ∧
        pool' = pool.set pool.shared task (some future)
    | .poll task draw => ∃ β label, ∃ poll : D → σ → Option (β × σ), ∃ next answer shared,
      pool.tasks task = some (.point label poll next) ∧
        poll draw pool.shared = some (answer, shared) ∧
        pool' = pool.set shared task (some (next answer))
    | .drop task none => ∃ β label, ∃ poll : D → σ → Option (β × σ), ∃ next,
      pool.tasks task = some (.point label poll next) ∧ rules.droppable label = true ∧
        pool' = pool.set (rules.release task pool.shared) task none
    | .drop task (some draw) => ∃ β label, ∃ poll : D → σ → Option (β × σ), ∃ next answer shared,
      pool.tasks task = some (.point label poll next) ∧ rules.droppable label = true ∧
        poll draw pool.shared = some (answer, shared) ∧
        pool' = pool.set (rules.release task shared) task none
    | .finish task => ∃ result, pool.tasks task = some (.ready result) ∧
        pool' = pool.set (rules.release task pool.shared) task none
    | .restart => pool' = begins pool.shared

/-! ## Futures under the lock -/

/-- What a verification of futures is about: what holds while the lock is free, what holds at
each point of its holder, at which points one may be without it, and which answers and drops
there are. -/
structure Contract (L D σ : Type) where
  quiet : σ → Prop
  check : L → σ → Prop
  free : L → Prop
  answers : L → D → Prop
  drops : L → Option D → Prop

variable (contract : Contract L D σ)

namespace Future

/-- From `s`, holding the lock, each point meets its check, each drop leaves the state quiet, and
the future ends in `Q`. -/
def Inside (task : ι) (Q : Except ε α → σ → Prop) : Future L D σ ε α → σ → Prop
  | .ready result, s => Q result s
  | .point label poll next, s => contract.check label s ∧
    (rules.droppable label = true → contract.drops label none →
      contract.quiet (rules.release task s)) ∧
    ∀ draw answer s', poll draw s = some (answer, s') → rules.holder s' = some task ∧
      (rules.droppable label = true → contract.drops label (some draw) →
        contract.quiet (rules.release task s')) ∧
      (contract.answers label draw → (next answer).Inside task Q s')

/-- Not holding the lock, the future leaves the state alone until it takes the lock. -/
def Outside (task : ι) : Future L D σ ε α → Prop
  | .ready _ => True
  | .point label poll next => contract.free label ∧
    ∀ draw answer s s', poll draw s = some (answer, s') →
      (s' = s ∧ (next answer).Outside task) ∨
        (rules.holder s = none ∧ rules.holder s' = some task ∧ rules.release task s' = s ∧
          (contract.quiet s → (next answer).Inside rules contract task
            (fun _ s => contract.quiet (rules.release task s)) s'))

variable {rules contract} {task : ι} {Q : Except ε α → σ → Prop}

theorem Inside.mono {Q' : Except ε α → σ → Prop} {future : Future L D σ ε α} {s : σ}
    (h : future.Inside rules contract task Q s) (hQ : ∀ result s, Q result s → Q' result s) :
    future.Inside rules contract task Q' s := by
  induction future generalizing s with
  | ready result => exact hQ result s h
  | point label poll next ih =>
    obtain ⟨hcheck, hdrop, hpoll⟩ := h
    refine ⟨hcheck, hdrop, ?_⟩
    intro draw answer s' hanswer
    obtain ⟨hheld, hlost, hgo⟩ := hpoll draw answer s' hanswer
    exact ⟨hheld, hlost, fun hallowed => ih answer (hgo hallowed)⟩

/-- What the result hands to the rest of a future. -/
def InsideThen (rules : LockRules ι L σ) (contract : Contract L D σ) (task : ι)
    (f : α → Future L D σ ε β) (Q : Except ε β → σ → Prop) : Except ε α → σ → Prop
  | .ok a, s => (f a).Inside rules contract task Q s
  | .error e, s => Q (.error e) s

theorem Inside.bind {future : Future L D σ ε α} {f : α → Future L D σ ε β}
    {Q : Except ε β → σ → Prop} {s : σ}
    (h : future.Inside rules contract task (InsideThen rules contract task f Q) s) :
    (future >>= f).Inside rules contract task Q s := by
  induction future generalizing s with
  | ready result => cases result <;> exact h
  | point label poll next ih =>
    obtain ⟨hcheck, hdrop, hpoll⟩ := h
    refine ⟨hcheck, hdrop, ?_⟩
    intro draw answer s' hanswer
    obtain ⟨hheld, hlost, hgo⟩ := hpoll draw answer s' hanswer
    exact ⟨hheld, hlost, fun hallowed => ih answer (hgo hallowed)⟩

theorem Inside.attempt {Q : Except ε (Except ε α) → σ → Prop} {future : Future L D σ ε α} {s : σ}
    (h : future.Inside rules contract task (fun result => Q (.ok result)) s) :
    future.attempt.Inside rules contract task Q s := by
  induction future generalizing s with
  | ready result => exact h
  | point label poll next ih =>
    obtain ⟨hcheck, hdrop, hpoll⟩ := h
    refine ⟨hcheck, hdrop, ?_⟩
    intro draw answer s' hanswer
    obtain ⟨hheld, hlost, hgo⟩ := hpoll draw answer s' hanswer
    exact ⟨hheld, hlost, fun hallowed => ih answer (hgo hallowed)⟩

end Future

/-! ## The invariant of a pool -/

variable {rules contract}

/-- While the lock is free the state is quiet; its holder is verified from where it is, and all
others are outside. -/
structure PoolInvariant (rules : LockRules ι L σ) (contract : Contract L D σ)
    (pool : Pool ι L D σ ε α) : Prop where
  quiet : rules.holder pool.shared = none → contract.quiet pool.shared
  inside : ∀ task, rules.holder pool.shared = some task → ∃ future,
    pool.tasks task = some future ∧ future.Inside rules contract task
      (fun _ s => contract.quiet (rules.release task s)) pool.shared
  outside : ∀ task future, rules.holder pool.shared ≠ some task →
    pool.tasks task = some future → future.Outside rules contract task

/-- The answers and the drops of an event are those of the contract. -/
def Permitted (contract : Contract L D σ) (pool : Pool ι L D σ ε α) : Event ι L D σ ε α → Prop
  | .poll task draw => ∀ β label, ∀ poll : D → σ → Option (β × σ), ∀ next,
    pool.tasks task = some (.point label poll next) → contract.answers label draw
  | .drop task effect => ∀ β label, ∀ poll : D → σ → Option (β × σ), ∀ next,
    pool.tasks task = some (.point label poll next) → contract.drops label effect
  | _ => True

theorem PoolInvariant.gone [DecidableEq ι] {pool : Pool ι L D σ ε α} (h : PoolInvariant rules contract pool)
    {task : ι} {shared : σ}
    (hheld : rules.holder pool.shared = some task → rules.holder shared = none ∧
      contract.quiet shared)
    (hfree : rules.holder pool.shared ≠ some task → shared = pool.shared) :
    PoolInvariant rules contract (pool.set shared task none) := by
  have hothers : ∀ other future, Function.update pool.tasks task none other = some future →
      other ≠ task ∧ pool.tasks other = some future := by
    intro other future hfuture
    by_cases hother : other = task
    · rw [hother, Function.update_self] at hfuture
      cases hfuture
    · rw [Function.update_of_ne hother] at hfuture
      exact ⟨hother, hfuture⟩
  by_cases hholder : rules.holder pool.shared = some task
  · obtain ⟨hnone, hquiet⟩ := hheld hholder
    refine ⟨fun _ => hquiet, ?_, ?_⟩
    · intro other hother
      exact absurd (hnone.symm.trans hother) (Option.some_ne_none other).symm
    · intro other future _ hfuture
      obtain ⟨hne, hfuture⟩ := hothers other future hfuture
      refine h.outside other future ?_ hfuture
      rw [hholder]
      exact fun heq => hne (Option.some.inj heq).symm
  · obtain rfl := hfree hholder
    refine ⟨h.quiet, ?_, ?_⟩
    · intro other hother
      obtain ⟨future, hfuture, hinside⟩ := h.inside other hother
      refine ⟨future, ?_, hinside⟩
      show Function.update pool.tasks task none other = _
      rw [Function.update_of_ne, hfuture]
      rintro rfl
      exact hholder hother
    · intro other future hother hfuture
      exact h.outside other future hother (hothers other future hfuture).2

theorem poolInvariant_step [DecidableEq ι] {init : Pool ι L D σ ε α → Prop}
    {starts : σ → ι → Future L D σ ε α → Prop} {begins : σ → Pool ι L D σ ε α}
    (hstarts : ∀ s task future, starts s task future → future.Outside rules contract task)
    (hbegins : ∀ pool : Pool ι L D σ ε α, PoolInvariant rules contract pool →
      PoolInvariant rules contract (begins pool.shared))
    {pool pool' : Pool ι L D σ ε α} {event : Event ι L D σ ε α}
    (h : PoolInvariant rules contract pool)
    (hstep : (poolSystem rules init starts begins).step pool event pool')
    (hpermitted : Permitted contract pool event) : PoolInvariant rules contract pool' := by
  cases event with
  | start task future =>
    obtain ⟨hnone, hstart, rfl⟩ := hstep
    refine ⟨h.quiet, ?_, ?_⟩
    · intro other hother
      obtain ⟨held, hheld, hinside⟩ := h.inside other hother
      refine ⟨held, ?_, hinside⟩
      show Function.update pool.tasks task (some future) other = _
      rw [Function.update_of_ne, hheld]
      rintro rfl
      rw [hnone] at hheld
      cases hheld
    · intro other future' hother hfuture
      by_cases hsame : other = task
      · subst hsame
        have hstarted := (Function.update_self other _ pool.tasks).symm.trans hfuture
        cases hstarted
        exact hstarts _ _ _ hstart
      · exact h.outside other future' hother
          ((Function.update_of_ne hsame _ pool.tasks).symm.trans hfuture)
  | poll task draw =>
    obtain ⟨β, label, poll, next, answer, shared, htask, hanswer, rfl⟩ := hstep
    have hallowed := hpermitted β label poll next htask
    have hothers : ∀ other, other ≠ task →
        (pool.set shared task (some (next answer))).tasks other = pool.tasks other :=
      fun other hne => Function.update_of_ne hne _ _
    have hmine : (pool.set shared task (some (next answer))).tasks task = some (next answer) :=
      Function.update_self _ _ _
    by_cases hholder : rules.holder pool.shared = some task
    · obtain ⟨future, hfuture, hinside⟩ := h.inside task hholder
      rw [htask] at hfuture
      cases hfuture
      obtain ⟨hheld, -, hgo⟩ := hinside.2.2 draw answer shared hanswer
      have hnext := hgo hallowed
      have heq : (pool.set shared task (some (next answer))).shared = shared := rfl
      refine ⟨?_, ?_, ?_⟩
      · rw [heq, hheld]
        exact fun hnone => absurd hnone (Option.some_ne_none task)
      · rw [heq, hheld]
        rintro other hother
        cases hother
        exact ⟨next answer, hmine, hnext⟩
      · rw [heq, hheld]
        intro other future hother hfuture
        have hne : other ≠ task := fun hsame => hother (congrArg some hsame.symm)
        rw [hothers other hne] at hfuture
        exact h.outside other future (hholder ▸ hother) hfuture
    · have houtside := (h.outside task _ hholder htask).2 draw answer pool.shared shared hanswer
      rcases houtside with ⟨rfl, hnext⟩ | ⟨hfree, hheld, -, hnext⟩
      · refine ⟨h.quiet, ?_, ?_⟩
        · intro other hother
          obtain ⟨held, hheld, hinside⟩ := h.inside other hother
          refine ⟨held, ?_, hinside⟩
          rw [hothers, hheld]
          rintro rfl
          exact hholder hother
        · intro other future hother hfuture
          by_cases hsame : other = task
          · subst hsame
            rw [hmine] at hfuture
            cases hfuture
            exact hnext
          · rw [hothers other hsame] at hfuture
            exact h.outside other future hother hfuture
      · have heq : (pool.set shared task (some (next answer))).shared = shared := rfl
        refine ⟨?_, ?_, ?_⟩
        · rw [heq, hheld]
          exact fun hnone => absurd hnone (Option.some_ne_none task)
        · rw [heq, hheld]
          rintro other hother
          cases hother
          exact ⟨next answer, hmine, hnext (h.quiet hfree)⟩
        · rw [heq, hheld]
          intro other future hother hfuture
          have hne : other ≠ task := fun hsame => hother (congrArg some hsame.symm)
          rw [hothers other hne] at hfuture
          refine h.outside other future ?_ hfuture
          rw [hfree]
          exact (Option.some_ne_none other).symm
  | drop task effect =>
    cases effect with
    | none =>
      obtain ⟨β, label, poll, next, htask, hdroppable, rfl⟩ := hstep
      have hallowed := hpermitted β label poll next htask
      refine h.gone ?_ (rules.release_other pool.shared task)
      intro hholder
      obtain ⟨future, hfuture, hinside⟩ := h.inside task hholder
      rw [htask] at hfuture
      cases hfuture
      exact ⟨rules.holder_release _ _ hholder, hinside.2.1 hdroppable hallowed⟩
    | some draw =>
      obtain ⟨β, label, poll, next, answer, shared, htask, hdroppable, hanswer, rfl⟩ := hstep
      have hallowed := hpermitted β label poll next htask
      refine h.gone ?_ ?_
      · intro hholder
        obtain ⟨future, hfuture, hinside⟩ := h.inside task hholder
        rw [htask] at hfuture
        cases hfuture
        obtain ⟨hheld, hlost, -⟩ := hinside.2.2 draw answer shared hanswer
        exact ⟨rules.holder_release _ _ hheld, hlost hdroppable hallowed⟩
      · intro hholder
        have houtside := (h.outside task _ hholder htask).2 draw answer pool.shared shared hanswer
        rcases houtside with ⟨rfl, -⟩ | ⟨-, -, hback, -⟩
        · exact rules.release_other _ _ hholder
        · exact hback
  | finish task =>
    obtain ⟨result, htask, rfl⟩ := hstep
    refine h.gone ?_ (rules.release_other pool.shared task)
    intro hholder
    obtain ⟨future, hfuture, hinside⟩ := h.inside task hholder
    rw [htask] at hfuture
    cases hfuture
    exact ⟨rules.holder_release _ _ hholder, hinside⟩
  | restart =>
    cases hstep
    exact hbegins pool h

theorem PoolInvariant.check {pool : Pool ι L D σ ε α} (h : PoolInvariant rules contract pool)
    {task : ι} {label : L} {poll : D → σ → Option (β × σ)} {next : β → Future L D σ ε α}
    (htask : pool.tasks task = some (.point label poll next)) (hfree : ¬ contract.free label) :
    contract.check label pool.shared := by
  by_cases hholder : rules.holder pool.shared = some task
  · obtain ⟨future, hfuture, hinside⟩ := h.inside task hholder
    rw [htask] at hfuture
    cases hfuture
    exact hinside.1
  · exact absurd (h.outside task _ hholder htask).1 hfree

/-! ## Scripts -/

section

variable [DecidableEq ι]

def Pool.poll (pool : Pool ι L D σ ε α) (task : ι) (draw : D) : Option (Pool ι L D σ ε α) :=
  match pool.tasks task with
  | some (.point _ poll next) => (poll draw pool.shared).map fun answer =>
    pool.set answer.2 task (some (next answer.1))
  | _ => none

/-- The pool once a task is dropped before its point had any effect. -/
def Pool.drop (rules : LockRules ι L σ) (pool : Pool ι L D σ ε α) (task : ι) :
    Option (Pool ι L D σ ε α) :=
  match pool.tasks task with
  | some (.point label _ _) =>
    if rules.droppable label = true then
      some (pool.set (rules.release task pool.shared) task none)
    else none
  | _ => none

def Pool.finish (rules : LockRules ι L σ) (pool : Pool ι L D σ ε α) (task : ι) :
    Option (Pool ι L D σ ε α) :=
  match pool.tasks task with
  | some (.ready _) => some (pool.set (rules.release task pool.shared) task none)
  | _ => none

variable {init : Pool ι L D σ ε α → Prop} {starts : σ → ι → Future L D σ ε α → Prop}
  {begins : σ → Pool ι L D σ ε α} {pool pool' : Pool ι L D σ ε α} {task : ι}

theorem step_poll {draw : D} (h : pool.poll task draw = some pool') :
    (poolSystem rules init starts begins).step pool (.poll task draw) pool' := by
  unfold Pool.poll at h
  split at h
  · next label poll next htask =>
    obtain ⟨⟨answer, shared⟩, hanswer, rfl⟩ := Option.map_eq_some_iff.mp h
    exact ⟨_, label, poll, next, answer, shared, htask, hanswer, rfl⟩
  · cases h

theorem step_drop (h : pool.drop rules task = some pool') :
    (poolSystem rules init starts begins).step pool (.drop task none) pool' := by
  unfold Pool.drop at h
  split at h
  · next label poll next htask =>
    split at h
    · next hdroppable =>
      cases h
      exact ⟨_, label, poll, next, htask, hdroppable, rfl⟩
    · cases h
  · cases h

theorem step_finish (h : pool.finish rules task = some pool') :
    (poolSystem rules init starts begins).step pool (.finish task) pool' := by
  unfold Pool.finish at h
  split at h
  · next result htask =>
    cases h
    exact ⟨result, htask, rfl⟩
  · cases h

end

end Futures
