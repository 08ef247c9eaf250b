/-
# Programs that run side by side

Threads share a state.  Any of them may be the next to make its call, and the call may go
through, fail or be the last of its thread; threads start at any time, and all may be gone at
once.  A thread is verified on its own:

* `Program.Guarded`: whatever the others do within the rely, each call of the program keeps the
  invariant and stays within the guarantee;
* `pool_invariant`: where every thread is guarded and guarantees what the others rely on, the
  invariant holds in every reachable state.
-/
import Mathlib.Data.List.Nodup
import MusicServer.CrashProgram
import MusicServer.Transition

namespace CrashProgram

open Transition

variable {σ ε α β τ : Type}

namespace Program

/-! ## One call of a program -/

/-- What is left of a program after a call; nothing, where it is over or died. -/
def advance : Program σ ε α → Draw → σ → Option (Program σ ε α) × σ
  | .done _, _, s => (none, s)
  | .call act _ next, .proceed, s => (some (next (act s).1), (act s).2)
  | .call _ torn next, .fail progress, s => (some (next (.error .device)), torn progress s)
  | .call _ torn _, .crash progress, s => (none, torn progress s)

/-! ## Programs under interference -/

/-- From `s`, after any steps of others within `R` that keep `I`, each call keeps `I` and stays
within `G`, and the program ends in `Q`. -/
def Guarded (I : σ → Prop) (R G : σ → σ → Prop) (Q : Except ε α → σ → Prop) :
    Program σ ε α → σ → Prop
  | .done result, s => Q result s
  | .call act torn next, s => ∀ s', R s s' → I s' →
    (∀ progress, I (torn progress s') ∧ G s' (torn progress s') ∧
      (next (.error .device)).Guarded I R G Q (torn progress s')) ∧
    I (act s').2 ∧ G s' (act s').2 ∧ (next (act s').1).Guarded I R G Q (act s').2

variable {I : σ → Prop} {R G : σ → σ → Prop} {Q : Except ε α → σ → Prop}

theorem Guarded.mono {Q' : Except ε α → σ → Prop} {p : Program σ ε α} {s : σ}
    (h : p.Guarded I R G Q s) (hQ : ∀ r s, Q r s → Q' r s) : p.Guarded I R G Q' s := by
  induction p generalizing s with
  | done result => exact hQ _ _ h
  | call act torn next ih =>
    intro s' hrely hinv
    obtain ⟨htorn, hact, hguarantee, hnext⟩ := h s' hrely hinv
    refine ⟨?_, hact, hguarantee, ih _ hnext⟩
    intro progress
    obtain ⟨hkept, hguarantee, hnext⟩ := htorn progress
    exact ⟨hkept, hguarantee, ih _ hnext⟩

/-- What the result hands to the rest of a guarded program. -/
def GuardedThen (I : σ → Prop) (R G : σ → σ → Prop) (f : α → Program σ ε β)
    (Q : Except ε β → σ → Prop) : Except ε α → σ → Prop
  | .ok a, s => (f a).Guarded I R G Q s
  | .error e, s => Q (.error e) s

theorem Guarded.bind {p : Program σ ε α} {f : α → Program σ ε β} {Q : Except ε β → σ → Prop}
    {s : σ} (h : p.Guarded I R G (GuardedThen I R G f Q) s) : (p >>= f).Guarded I R G Q s := by
  induction p generalizing s with
  | done result => cases result <;> exact h
  | call act torn next ih =>
    intro s' hrely hinv
    obtain ⟨htorn, hact, hguarantee, hnext⟩ := h s' hrely hinv
    refine ⟨?_, hact, hguarantee, ih _ hnext⟩
    intro progress
    obtain ⟨hkept, hguarantee, hnext⟩ := htorn progress
    exact ⟨hkept, hguarantee, ih _ hnext⟩

theorem guardedThen_of {f : α → Program σ ε β} {Q : Except ε β → σ → Prop}
    {result : Except ε α} {s : σ} (herror : ∀ e s, Q (.error e) s)
    (hok : ∀ a s, (f a).Guarded I R G Q s) : GuardedThen I R G f Q result s := by
  cases result with
  | error e => exact herror e s
  | ok a => exact hok a s

theorem guarded_ofExcept_bind {result : Except ε α} {f : α → Program σ ε β}
    {Q : Except ε β → σ → Prop} {s : σ} (herror : ∀ e, Q (.error e) s)
    (hok : ∀ a, result = .ok a → (f a).Guarded I R G Q s) :
    (ofExcept result >>= f).Guarded I R G Q s := by
  cases result with
  | error e => exact herror e
  | ok a => exact hok a rfl

theorem Guarded.attempt {ε' : Type} {Q : Except ε' (Except ε α) → σ → Prop} {p : Program σ ε α}
    {s : σ} (h : p.Guarded I R G (fun r s => Q (.ok r) s) s) :
    (p.attempt : Program σ ε' _).Guarded I R G Q s := by
  induction p generalizing s with
  | done result => exact h
  | call act torn next ih =>
    intro s' hrely hinv
    obtain ⟨htorn, hact, hguarantee, hnext⟩ := h s' hrely hinv
    refine ⟨?_, hact, hguarantee, ih _ hnext⟩
    intro progress
    obtain ⟨hkept, hguarantee, hnext⟩ := htorn progress
    exact ⟨hkept, hguarantee, ih _ hnext⟩

theorem Guarded.rely {p : Program σ ε α} {s s' : σ}
    (h : p.Guarded I R G (fun _ _ => True) s) (htrans : ∀ s t u, R s t → R t u → R s u)
    (hrely : R s s') : p.Guarded I R G (fun _ _ => True) s' := by
  cases p with
  | done result => trivial
  | call act torn next => exact fun t ht hinv => h t (htrans _ _ _ hrely ht) hinv

theorem guarded_syscallTorn {onError : IoErrorKind → ε} {act : σ → Except IoErrorKind (β × σ)}
    {torn : ℕ → σ → σ} {Q : Except ε β → σ → Prop} {s : σ} (hrefl : ∀ s, G s s)
    (htorn : ∀ s', R s s' → I s' → ∀ progress, I (torn progress s') ∧ G s' (torn progress s') ∧
      Q (.error (onError .device)) (torn progress s'))
    (herror : ∀ s' kind, R s s' → I s' → act s' = .error kind → Q (.error (onError kind)) s')
    (hok : ∀ s' b s'', R s s' → I s' → act s' = .ok (b, s'') →
      I s'' ∧ G s' s'' ∧ Q (.ok b) s'') :
    (syscallTorn onError act torn).Guarded I R G Q s := by
  intro s' hrely hinv
  refine ⟨htorn s' hrely hinv, ?_⟩
  rcases hact : act s' with kind | ⟨b, s''⟩
  · rw [settle_error hact]
    exact ⟨hinv, hrefl s', herror s' kind hrely hinv hact⟩
  · rw [settle_ok hact]
    exact hok s' b s'' hrely hinv hact

/-! ## Programs whose calls all stay within a relation -/

/-- Every call of the program, whatever the calls before it answered, stays within `N`. -/
def Moves (N : σ → σ → Prop) : Program σ ε α → Prop
  | .done _ => True
  | .call act torn next =>
    (∀ s, N s (act s).2) ∧ (∀ progress s, N s (torn progress s)) ∧
      ∀ answer, (next answer).Moves N

variable {N : σ → σ → Prop}

theorem Moves.bind {p : Program σ ε α} {f : α → Program σ ε β} (hp : p.Moves N)
    (hf : ∀ a, (f a).Moves N) : (p >>= f).Moves N := by
  induction p with
  | done result =>
    cases result with
    | error e => trivial
    | ok a => exact hf a
  | call act torn next ih =>
    obtain ⟨hact, htorn, hnext⟩ := hp
    exact ⟨hact, htorn, fun answer => ih answer (hnext answer)⟩

theorem Moves.mono {N' : σ → σ → Prop} (hN : ∀ s s', N s s' → N' s s') {p : Program σ ε α}
    (h : p.Moves N) : p.Moves N' := by
  induction p with
  | done result => trivial
  | call act torn next ih =>
    obtain ⟨hact, htorn, hnext⟩ := h
    exact ⟨fun s => hN _ _ (hact s), fun progress s => hN _ _ (htorn progress s),
      fun answer => ih answer (hnext answer)⟩

theorem moves_ofExcept (result : Except ε α) : (ofExcept result : Program σ ε α).Moves N := trivial

theorem moves_pure (a : α) : (pure a : Program σ ε α).Moves N := trivial

theorem moves_fail (e : ε) : (fail e : Program σ ε α).Moves N := trivial

theorem moves_syscallTorn {onError : IoErrorKind → ε} {act : σ → Except IoErrorKind (β × σ)}
    {torn : ℕ → σ → σ} (hrefl : ∀ s, N s s) (htorn : ∀ progress s, N s (torn progress s))
    (hact : ∀ s b s', act s = .ok (b, s') → N s s') :
    (syscallTorn onError act torn).Moves N := by
  refine ⟨?_, htorn, fun _ => trivial⟩
  intro s
  rcases h : act s with kind | ⟨b, s'⟩
  · rw [settle_error h]
    exact hrefl s
  · rw [settle_ok h]
    exact hact s b s' h

theorem moves_syscall {onError : IoErrorKind → ε} {act : σ → Except IoErrorKind (β × σ)}
    (hrefl : ∀ s, N s s) (hact : ∀ s b s', act s = .ok (b, s') → N s s') :
    (syscall onError act : Program σ ε β).Moves N :=
  moves_syscallTorn hrefl (fun _ => hrefl) hact

theorem Moves.wp {p : Program σ ε α} (h : p.Moves N) {K : σ → Prop}
    (hkept : ∀ s s', N s s' → K s → K s') {faulty : Bool} {s : σ} (hs : K s) :
    p.wp faulty K (fun _ s => K s) s := by
  induction p generalizing s with
  | done result => exact hs
  | call act torn next ih =>
    obtain ⟨hact, htorn, hnext⟩ := h
    refine ⟨?_, ?_, ih _ (hnext _) (hkept _ _ (hact s) hs)⟩
    · exact fun progress => hkept _ _ (htorn progress s) hs
    · exact fun _ progress => ih _ (hnext _) (hkept _ _ (htorn progress s) hs)

/-- What a program returns, whatever its calls answer. -/
def Returns (P : α → Prop) : Program σ ε α → Prop
  | .done (.ok a) => P a
  | .done (.error _) => True
  | .call _ _ next => ∀ answer, (next answer).Returns P

variable {P : α → Prop}

theorem returns_ofExcept {result : Except ε α} (h : ∀ a, result = .ok a → P a) :
    (ofExcept result : Program σ ε α).Returns P := by
  cases result with
  | error e => trivial
  | ok a => exact h a rfl

theorem Returns.bind {P : β → Prop} {p : Program σ ε α} {f : α → Program σ ε β}
    (hf : ∀ a, (f a).Returns P) : (p >>= f).Returns P := by
  induction p with
  | done result =>
    cases result with
    | error e => trivial
    | ok a => exact hf a
  | call act torn next ih => exact fun answer => ih answer

theorem Moves.bind_returns {p : Program σ ε α} {f : α → Program σ ε β} (hp : p.Moves N)
    (hreturns : p.Returns P) (hf : ∀ a, P a → (f a).Moves N) : (p >>= f).Moves N := by
  induction p with
  | done result =>
    cases result with
    | error e => trivial
    | ok a => exact hf a hreturns
  | call act torn next ih =>
    obtain ⟨hact, htorn, hnext⟩ := hp
    exact ⟨hact, htorn, fun answer => ih answer (hnext answer) (hreturns answer)⟩

theorem Guarded.returns {p : Program σ ε α} {s : σ} (h : p.Guarded I R G Q s)
    (hp : p.Returns P) :
    p.Guarded I R G (fun r s => Q r s ∧ ∀ a, r = .ok a → P a) s := by
  induction p generalizing s with
  | done result =>
    refine ⟨h, ?_⟩
    rintro a rfl
    exact hp
  | call act torn next ih =>
    intro s' hrely hinv
    obtain ⟨htorn, hact, hguarantee, hnext⟩ := h s' hrely hinv
    refine ⟨?_, hact, hguarantee, ih _ hnext (hp _)⟩
    intro progress
    obtain ⟨hkept, hguarantee, hnext⟩ := htorn progress
    exact ⟨hkept, hguarantee, ih _ hnext (hp _)⟩

theorem Moves.guarded {p : Program σ ε α} (h : p.Moves N) {K : σ → Prop}
    (hinv : ∀ s s', N s s' → I s → I s') (hguarantee : ∀ s s', N s s' → I s → G s s')
    (hrely : ∀ s s', R s s' → K s → K s') (hkept : ∀ s s', N s s' → I s → K s → K s') {s : σ}
    (hs : K s) : p.Guarded I R G (fun _ s => K s) s := by
  induction p generalizing s with
  | done result => exact hs
  | call act torn next ih =>
    intro s' hothers hI
    obtain ⟨hact, htorn, hnext⟩ := h
    have hK := hrely _ _ hothers hs
    refine ⟨?_, hinv _ _ (hact s') hI, hguarantee _ _ (hact s') hI,
      ih _ (hnext _) (hkept _ _ (hact s') hI hK)⟩
    intro progress
    exact ⟨hinv _ _ (htorn progress s') hI, hguarantee _ _ (htorn progress s') hI,
      ih _ (hnext _) (hkept _ _ (htorn progress s') hI hK)⟩

end Program

/-! ## Pools of threads -/

/-- The shared state, and what is left of each thread. -/
structure Pool (σ ε α τ : Type) where
  shared : σ
  threads : List (τ × Program σ ε α)

inductive PoolAction (σ ε α τ : Type) where
  | advance (thread : τ) (draw : Draw)
  | start (thread : τ) (program : Program σ ε α)
  | environment (shared : σ)
  /-- The process is gone, and with it every thread. -/
  | restart

/-- Threads of the kind `starts` allows, among steps of an environment. -/
def poolSystem (init : σ → Prop) (starts : σ → τ → Program σ ε α → Prop)
    (environment : σ → σ → Prop) : System (Pool σ ε α τ) (PoolAction σ ε α τ) where
  init pool := init pool.shared ∧ pool.threads = []
  step pool action pool' :=
    match action with
    | .advance thread draw => ∃ before after program,
      pool.threads = before ++ (thread, program) :: after ∧
        pool' = ⟨(program.advance draw pool.shared).2,
          before ++ ((program.advance draw pool.shared).1.toList.map fun rest => (thread, rest)) ++
            after⟩
    | .start thread program =>
      thread ∉ pool.threads.map Prod.fst ∧ starts pool.shared thread program ∧
        pool' = ⟨pool.shared, (thread, program) :: pool.threads⟩
    | .environment shared => environment pool.shared shared ∧ pool' = ⟨shared, pool.threads⟩
    | .restart => pool' = ⟨pool.shared, []⟩

section

variable {init : σ → Prop} {starts : σ → τ → Program σ ε α → Prop} {environment : σ → σ → Prop}
  {I : σ → Prop} {R G : τ → σ → σ → Prop}

/-- The shared state keeps the invariant, and every thread is guarded from where it is. -/
structure PoolInvariant (I : σ → Prop) (R G : τ → σ → σ → Prop) (pool : Pool σ ε α τ) : Prop where
  shared : I pool.shared
  distinct : (pool.threads.map Prod.fst).Nodup
  guarded : ∀ entry ∈ pool.threads,
    entry.2.Guarded I (R entry.1) (G entry.1) (fun _ _ => True) pool.shared

theorem advance_guarded {R G : σ → σ → Prop} {program : Program σ ε α} {s : σ} (hs : I s)
    (hrefl : R s s) (hG : G s s) (h : program.Guarded I R G (fun _ _ => True) s) (draw : Draw) :
    I (program.advance draw s).2 ∧ G s (program.advance draw s).2 ∧
      ∀ rest ∈ (program.advance draw s).1,
        rest.Guarded I R G (fun _ _ => True) (program.advance draw s).2 := by
  cases program with
  | done result => exact ⟨hs, hG, fun _ hrest => absurd hrest (Option.not_mem_none _)⟩
  | call act torn next =>
    obtain ⟨htorn, hact, hguarantee, hnext⟩ := h s hrefl hs
    cases draw with
    | proceed =>
      refine ⟨hact, hguarantee, ?_⟩
      rintro rest hrest
      cases hrest
      exact hnext
    | fail progress =>
      obtain ⟨hkept, hguarantee, hnext⟩ := htorn progress
      refine ⟨hkept, hguarantee, ?_⟩
      rintro rest hrest
      cases hrest
      exact hnext
    | crash progress =>
      obtain ⟨hkept, hguarantee, _⟩ := htorn progress
      exact ⟨hkept, hguarantee, fun _ hrest => absurd hrest (Option.not_mem_none _)⟩

/-- Where every thread is guarded when it starts, and guarantees what the others rely on, the
invariant holds in every reachable state. -/
theorem pool_invariant (hrefl : ∀ t s, R t s s) (htrans : ∀ t s s' s'', R t s s' → R t s' s'' →
      R t s s'') (hG : ∀ t s, G t s s) (hothers : ∀ t u s s', t ≠ u → I s → G t s s' → R u s s')
    (henvironment : ∀ s s', environment s s' → I s → I s' ∧ ∀ u, R u s s')
    (hstarts : ∀ s t program, I s → starts s t program →
      program.Guarded I (R t) (G t) (fun _ _ => True) s)
    (hinit : ∀ s, init s → I s) {pool : Pool σ ε α τ}
    (h : (poolSystem init starts environment).Reachable pool) : PoolInvariant I R G pool := by
  refine h.invariant ?_ ?_
  · rintro ⟨shared, threads⟩ ⟨hshared, rfl⟩
    exact ⟨hinit _ hshared, List.nodup_nil, fun _ hentry => absurd hentry List.not_mem_nil⟩
  · intro pool action pool' hpool hstep
    cases action with
    | advance thread draw =>
      obtain ⟨before, after, program, hthreads, rfl⟩ := hstep
      have hmem : (thread, program) ∈ pool.threads := by
        rw [hthreads]
        exact List.mem_append_right _ List.mem_cons_self
      obtain ⟨hinv, hguarantee, hrest⟩ := advance_guarded hpool.shared (hrefl thread _)
        (hG thread _) (hpool.guarded _ hmem) draw
      have hdistinct := hpool.distinct
      rw [hthreads, List.map_append, List.map_cons, List.nodup_middle, List.nodup_cons,
        List.mem_append, not_or] at hdistinct
      obtain ⟨⟨hbefore, hafter⟩, hnodup⟩ := hdistinct
      refine ⟨hinv, ?_, ?_⟩
      · simp only [List.map_append, List.map_map]
        cases hadvance : (program.advance draw pool.shared).1 with
        | none => simpa using hnodup
        | some rest =>
          simp only [Option.toList_some, List.map_cons, List.map_nil, Function.comp_apply,
            List.append_assoc, List.singleton_append]
          rw [List.nodup_middle, List.nodup_cons, List.mem_append, not_or]
          exact ⟨⟨hbefore, hafter⟩, hnodup⟩
      · -- The thread that moved is guarded by its own call, the others by their rely.
        have hother : ∀ entry ∈ pool.threads, entry.1 ≠ thread →
            entry.2.Guarded I (R entry.1) (G entry.1) (fun _ _ => True)
              (program.advance draw pool.shared).2 := by
          intro entry hentry hne
          exact (hpool.guarded entry hentry).rely (htrans entry.1)
            (hothers thread entry.1 _ _ hne.symm hpool.shared hguarantee)
        intro entry hentry
        simp only [List.append_assoc, List.mem_append, List.mem_map, Option.mem_toList] at hentry
        rcases hentry with hentry | ⟨rest, hmine, rfl⟩ | hentry
        · refine hother entry ?_ ?_
          · rw [hthreads]
            exact List.mem_append_left _ hentry
          · rintro rfl
            exact hbefore (List.mem_map.mpr ⟨entry, hentry, rfl⟩)
        · exact hrest rest hmine
        · refine hother entry ?_ ?_
          · rw [hthreads]
            exact List.mem_append_right _ (List.mem_cons_of_mem _ hentry)
          · rintro rfl
            exact hafter (List.mem_map.mpr ⟨entry, hentry, rfl⟩)
    | start thread program =>
      obtain ⟨hnew, hstart, rfl⟩ := hstep
      refine ⟨hpool.shared, ?_, ?_⟩
      · rw [List.map_cons, List.nodup_cons]
        exact ⟨hnew, hpool.distinct⟩
      · intro entry hentry
        rcases List.mem_cons.mp hentry with rfl | hentry
        · exact hstarts _ _ _ hpool.shared hstart
        · exact hpool.guarded entry hentry
    | environment shared =>
      obtain ⟨henv, rfl⟩ := hstep
      obtain ⟨hinv, hrely⟩ := henvironment _ _ henv hpool.shared
      refine ⟨hinv, hpool.distinct, ?_⟩
      intro entry hentry
      exact (hpool.guarded entry hentry).rely (htrans entry.1) (hrely entry.1)
    | restart =>
      cases hstep
      exact ⟨hpool.shared, List.nodup_nil, fun _ hentry => absurd hentry List.not_mem_nil⟩

/-- Each step stays within the guarantee of the thread that moved, or is the environment's, or
leaves the shared state alone. -/
theorem pool_guarantee (hrefl : ∀ t s, R t s s) (hG : ∀ t s, G t s s) {pool pool' : Pool σ ε α τ}
    (hpool : PoolInvariant I R G pool) {action : PoolAction σ ε α τ}
    (hstep : (poolSystem init starts environment).step pool action pool') :
    (∃ t, G t pool.shared pool'.shared) ∨ environment pool.shared pool'.shared ∨
      pool'.shared = pool.shared := by
  cases action with
  | advance thread draw =>
    obtain ⟨before, after, program, hthreads, rfl⟩ := hstep
    have hmem : (thread, program) ∈ pool.threads := by
      rw [hthreads]
      exact List.mem_append_right _ List.mem_cons_self
    exact Or.inl ⟨thread, (advance_guarded hpool.shared (hrefl thread _) (hG thread _)
      (hpool.guarded _ hmem) draw).2.1⟩
  | start thread program =>
    obtain ⟨_, _, rfl⟩ := hstep
    exact Or.inr (Or.inr rfl)
  | environment shared =>
    obtain ⟨henvironment, rfl⟩ := hstep
    exact Or.inr (Or.inl henvironment)
  | restart =>
    cases hstep
    exact Or.inr (Or.inr rfl)

theorem reachable_run {t : τ} {program : Program σ ε α} {s : σ}
    (h : (poolSystem init starts environment).Reachable ⟨s, [(t, program)]⟩)
    (script : List Draw) :
    (poolSystem init starts environment).Reachable ⟨(program.run script s).2, []⟩ := by
  induction program generalizing s script with
  | done result => exact h.step (a := .advance t .proceed) ⟨[], [], _, rfl, rfl⟩
  | call act torn next ih =>
    match script with
    | [] => exact ih _ (h.step (a := .advance t .proceed) ⟨[], [], _, rfl, rfl⟩) []
    | .proceed :: rest =>
      exact ih _ (h.step (a := .advance t .proceed) ⟨[], [], _, rfl, rfl⟩) rest
    | .fail progress :: rest =>
      exact ih _ (h.step (a := .advance t (.fail progress)) ⟨[], [], _, rfl, rfl⟩) rest
    | .crash progress :: rest =>
      exact h.step (a := .advance t (.crash progress)) ⟨[], [], _, rfl, rfl⟩

end

end CrashProgram
