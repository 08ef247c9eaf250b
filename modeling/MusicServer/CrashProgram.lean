/-
# Programs that may fail or crash at any call

A program is a tree of calls on a state.  Each call may go through, fail for a reason of
its own device, or be the one during which the process dies; the last two may leave part
of its work behind.  A script says what happens to the calls one after another, and every
result about all scripts goes through the weakest precondition of the program:

* `Program.run_of_wp`: what the weakest precondition promises holds of every script, at
  its end as well as at the point of a crash;
* `Program.Checks.wp_bind`: a program that only reads may be run in one step.
-/
import Mathlib.Data.List.Basic

namespace CrashProgram

/-- How a call can fail; `device` stands for the failures the state does not decide. -/
inductive IoErrorKind where
  | notFound
  | alreadyExists
  | notADirectory
  | isADirectory
  | directoryNotEmpty
  | crossesDevices
  | invalidInput
  | device
  deriving DecidableEq

/-- A program over states `σ` with errors `ε`: a result, or a call and what follows it.
`torn` is the state when the call stops after some progress. -/
inductive Program (σ ε α : Type) : Type 1 where
  | done (result : Except ε α)
  | call {β : Type} (act : σ → Except IoErrorKind β × σ) (torn : ℕ → σ → σ)
      (next : Except IoErrorKind β → Program σ ε α)

inductive Draw where
  | proceed
  | fail (progress : ℕ)
  | crash (progress : ℕ)
  deriving DecidableEq

/-- A finished run has a result; a crashed one has none. -/
inductive Outcome (ε α : Type) where
  | finished (result : Except ε α)
  | crashed
  deriving DecidableEq

namespace Program

variable {σ ε ε' α β γ : Type}

/-! ## Building programs -/

def bind : Program σ ε α → (α → Program σ ε β) → Program σ ε β
  | .done (.ok a), f => f a
  | .done (.error e), _ => .done (.error e)
  | .call act torn next, f => .call act torn fun answer => (next answer).bind f

instance : Monad (Program σ ε) where
  pure a := .done (.ok a)
  bind := bind

def fail (e : ε) : Program σ ε α := .done (.error e)

def ofExcept (result : Except ε α) : Program σ ε α := .done result

/-- Hands the result to what follows, be it an error. -/
def attempt : Program σ ε α → Program σ ε' (Except ε α)
  | .done result => .done (.ok result)
  | .call act torn next => .call act torn fun answer => (next answer).attempt

def mapError (f : ε → ε') : Program σ ε α → Program σ ε' α
  | .done result => .done (result.mapError f)
  | .call act torn next => .call act torn fun answer => (next answer).mapError f

/-- The state after a call is its old one where the call fails. -/
def settle (act : σ → Except IoErrorKind (β × σ)) (s : σ) : Except IoErrorKind β × σ :=
  match act s with
  | .ok (b, s') => (.ok b, s')
  | .error kind => (.error kind, s)

/-- One call that changes the state piece by piece. -/
def syscallTorn (onError : IoErrorKind → ε) (act : σ → Except IoErrorKind (β × σ))
    (torn : ℕ → σ → σ) : Program σ ε β :=
  .call (settle act) torn fun answer => .done (answer.mapError onError)

/-- One call that either goes through or leaves the state alone. -/
def syscall (onError : IoErrorKind → ε) (act : σ → Except IoErrorKind (β × σ)) :
    Program σ ε β :=
  syscallTorn onError act fun _ s => s

variable {act : σ → Except IoErrorKind (β × σ)}

theorem settle_ok {s s' : σ} {b : β} (h : act s = .ok (b, s')) : settle act s = (.ok b, s') := by
  rw [settle, h]

variable {s : σ}

theorem settle_error {kind : IoErrorKind} (h : act s = .error kind) :
    settle act s = (.error kind, s) := by
  rw [settle, h]

/-! ## Running them -/

def run : Program σ ε α → List Draw → σ → Outcome ε α × σ
  | .done result, _, s => (.finished result, s)
  | .call act _ next, [], s => (next (act s).1).run [] (act s).2
  | .call act _ next, .proceed :: rest, s => (next (act s).1).run rest (act s).2
  | .call _ torn next, .fail progress :: rest, s =>
    (next (.error .device)).run rest (torn progress s)
  | .call _ torn _, .crash progress :: _, s => (.crashed, torn progress s)

/-- The run in which every call goes through. -/
def finish : Program σ ε α → σ → Except ε α × σ
  | .done result, s => (result, s)
  | .call act _ next, s => (next (act s).1).finish (act s).2

theorem run_nil (p : Program σ ε α) (s : σ) :
    p.run [] s = (.finished (p.finish s).1, (p.finish s).2) := by
  induction p generalizing s with
  | done result => rfl
  | call act torn next ih =>
    rw [run, finish]
    exact ih _ _

@[simp] theorem finish_pure (a : α) (s : σ) :
    (pure a : Program σ ε α).finish s = (.ok a, s) := rfl

@[simp] theorem finish_fail (e : ε) (s : σ) :
    (fail e : Program σ ε α).finish s = (.error e, s) := rfl

@[simp] theorem finish_ofExcept (result : Except ε α) (s : σ) :
    (ofExcept result : Program σ ε α).finish s = (result, s) := rfl

theorem finish_bind (p : Program σ ε α) (f : α → Program σ ε β) (s : σ) :
    (p >>= f).finish s =
      match p.finish s with
      | (.ok a, s') => (f a).finish s'
      | (.error e, s') => (.error e, s') := by
  induction p generalizing s with
  | done result => cases result <;> rfl
  | call act torn next ih => exact ih _ _

variable {p : Program σ ε α} {f : α → Program σ ε β}

theorem finish_bind_ok {s s' : σ} {a : α} (h : p.finish s = (.ok a, s')) :
    (p >>= f).finish s = (f a).finish s' := by
  rw [finish_bind, h]

theorem finish_bind_error {s s' : σ} {e : ε} (h : p.finish s = (.error e, s')) :
    (p >>= f).finish s = (.error e, s') := by
  rw [finish_bind, h]

theorem finish_attempt (p : Program σ ε α) (s : σ) :
    (p.attempt : Program σ ε' _).finish s = (.ok (p.finish s).1, (p.finish s).2) := by
  induction p generalizing s with
  | done result => rfl
  | call act torn next ih => exact ih _ _

theorem finish_mapError (f : ε → ε') (p : Program σ ε α) (s : σ) :
    (p.mapError f).finish s = ((p.finish s).1.mapError f, (p.finish s).2) := by
  induction p generalizing s with
  | done result => rfl
  | call act torn next ih => exact ih _ _

variable {onError : IoErrorKind → ε} {torn : ℕ → σ → σ}

theorem finish_syscallTorn_ok {s s' : σ} {b : β} (h : act s = .ok (b, s')) :
    (syscallTorn onError act torn).finish s = (.ok b, s') := by
  rw [syscallTorn, finish, settle_ok h]
  rfl

theorem finish_syscallTorn_error {kind : IoErrorKind} (h : act s = .error kind) :
    (syscallTorn onError act torn).finish s = (.error (onError kind), s) := by
  rw [syscallTorn, finish, settle_error h]
  rfl

theorem finish_syscall_ok {s s' : σ} {b : β} (h : act s = .ok (b, s')) :
    (syscall onError act).finish s = (.ok b, s') := finish_syscallTorn_ok h

theorem finish_syscall_error {kind : IoErrorKind} (h : act s = .error kind) :
    (syscall onError act).finish s = (.error (onError kind), s) := finish_syscallTorn_error h

/-! ## Weakest preconditions -/

/-- From `s`, the program ends in `Q` and crashes only in `C`, whatever happens to its
calls; they fail only where `faulty` says so. -/
def wp (faulty : Bool) (C : σ → Prop) :
    Program σ ε α → (Except ε α → σ → Prop) → σ → Prop
  | .done result, Q, s => Q result s
  | .call act torn next, Q, s =>
    (∀ progress, C (torn progress s)) ∧
      (faulty = true → ∀ progress, (next (.error .device)).wp faulty C Q (torn progress s)) ∧
        (next (act s).1).wp faulty C Q (act s).2

variable {faulty : Bool} {C : σ → Prop}

/-- A script without failing calls, where these are excluded. -/
def Permitted (faulty : Bool) (draws : List Draw) : Prop :=
  faulty = false → ∀ draw ∈ draws, ∀ progress, draw ≠ .fail progress

theorem Permitted.tail {draw : Draw} {rest : List Draw} (h : Permitted faulty (draw :: rest)) :
    Permitted faulty rest := fun hfaulty other hother => h hfaulty other (List.mem_cons_of_mem _ hother)

/-- Where a run may stop: with its result, or crashed. -/
def Stops (C : σ → Prop) (Q : Except ε α → σ → Prop) : Outcome ε α × σ → Prop
  | (.finished result, s) => Q result s
  | (.crashed, s) => C s

theorem run_of_wp {Q : Except ε α → σ → Prop} (h : p.wp faulty C Q s) {draws : List Draw}
    (hdraws : Permitted faulty draws) :
    Stops C Q (p.run draws s) := by
  induction p generalizing draws s with
  | done result => exact h
  | call act torn next ih =>
    obtain ⟨hcrash, hfail, hgo⟩ := h
    rcases draws with - | ⟨draw, rest⟩
    · exact ih _ hgo hdraws
    · rcases draw with - | progress | progress
      · exact ih _ hgo hdraws.tail
      · have hfaulty : faulty = true := by
          by_contra hnot
          exact hdraws (by simpa using hnot) _ List.mem_cons_self progress rfl
        exact ih _ (hfail hfaulty progress) hdraws.tail
      · exact hcrash progress

theorem finish_of_wp {Q : Except ε α → σ → Prop} (h : p.wp faulty C Q s) :
    Q (p.finish s).1 (p.finish s).2 := by
  have hstops := @run_of_wp _ _ _ _ _ _ _ _ h [] (by intro _ draw hdraw; cases hdraw)
  rwa [run_nil] at hstops

theorem wp_weaken {C' : σ → Prop} {Q Q' : Except ε α → σ → Prop} (h : p.wp faulty C Q s)
    (hC : ∀ s, C s → C' s) (hQ : ∀ r s, Q r s → Q' r s) :
    p.wp faulty C' Q' s := by
  induction p generalizing s with
  | done result => exact hQ _ _ h
  | call act torn next ih =>
    obtain ⟨hcrash, hfail, hgo⟩ := h
    exact ⟨fun progress => hC _ (hcrash progress),
      fun hfaulty progress => ih _ (hfail hfaulty progress), ih _ hgo⟩

theorem wp_mono {Q Q' : Except ε α → σ → Prop} (h : p.wp faulty C Q s) (hQ : ∀ r s, Q r s → Q' r s) :
    p.wp faulty C Q' s :=
  wp_weaken h (fun _ => id) hQ

/-- What the result hands to the rest of a program. -/
def Then (faulty : Bool) (C : σ → Prop) (f : α → Program σ ε β) (Q : Except ε β → σ → Prop) :
    Except ε α → σ → Prop
  | .ok a, s => (f a).wp faulty C Q s
  | .error e, s => Q (.error e) s

variable {Q : Except ε β → σ → Prop}

theorem wp_bind (h : p.wp faulty C (Then faulty C f Q) s) : (p >>= f).wp faulty C Q s := by
  induction p generalizing s with
  | done result => cases result <;> exact h
  | call act torn next ih =>
    obtain ⟨hcrash, hfail, hgo⟩ := h
    exact ⟨hcrash, fun hfaulty progress => ih _ (hfail hfaulty progress), ih _ hgo⟩

theorem wp_attempt {Q : Except ε' (Except ε α) → σ → Prop}
    (h : p.wp faulty C (fun r s => Q (.ok r) s) s) : p.attempt.wp faulty C Q s := by
  induction p generalizing s with
  | done result => exact h
  | call act torn next ih =>
    obtain ⟨hcrash, hfail, hgo⟩ := h
    exact ⟨hcrash, fun hfaulty progress => ih _ (hfail hfaulty progress), ih _ hgo⟩

theorem wp_mapError {f : ε → ε'} {Q : Except ε' α → σ → Prop}
    (h : p.wp faulty C (fun r s => Q (r.mapError f) s) s) : (p.mapError f).wp faulty C Q s := by
  induction p generalizing s with
  | done result => exact h
  | call act torn next ih =>
    obtain ⟨hcrash, hfail, hgo⟩ := h
    exact ⟨hcrash, fun hfaulty progress => ih _ (hfail hfaulty progress), ih _ hgo⟩

/-- One call: it may crash or fail on the way, be refused where the state stays, or go
through. -/
theorem wp_syscallTorn (hcrash : ∀ progress, C (torn progress s))
    (hfault : faulty = true → ∀ progress, Q (.error (onError .device)) (torn progress s))
    (herror : ∀ kind, act s = .error kind → Q (.error (onError kind)) s)
    (hok : ∀ b s', act s = .ok (b, s') → Q (.ok b) s') :
    (syscallTorn onError act torn).wp faulty C Q s := by
  refine ⟨hcrash, hfault, ?_⟩
  rcases hact : act s with kind | ⟨b, s'⟩
  · rw [settle_error hact]
    exact herror kind hact
  · rw [settle_ok hact]
    exact hok b s' hact

theorem wp_syscall (hcrash : C s) (hfault : faulty = true → Q (.error (onError .device)) s)
    (herror : ∀ kind, act s = .error kind → Q (.error (onError kind)) s)
    (hok : ∀ b s', act s = .ok (b, s') → Q (.ok b) s') :
    (syscall onError act).wp faulty C Q s :=
  wp_syscallTorn (fun _ => hcrash) (fun hfaulty _ => hfault hfaulty) herror hok

/-! ## Programs that only read -/

/-- The program changes no state, and a failing call ends it with an error of `E`. -/
def Checks (E : ε → Prop) : Program σ ε α → Prop
  | .done _ => True
  | .call act torn next =>
    (∀ s, (act s).2 = s) ∧ (∀ progress s, torn progress s = s) ∧
      (∃ e, next (.error .device) = .done (.error e) ∧ E e) ∧ ∀ answer, (next answer).Checks E

variable {E : ε → Prop}

theorem Checks.bind (hp : p.Checks E) (hf : ∀ a, (f a).Checks E) : (p >>= f).Checks E := by
  induction p with
  | done result =>
    rcases result with e | a
    · trivial
    · exact hf a
  | call act torn next ih =>
    obtain ⟨hact, htorn, ⟨e, hnext, he⟩, hrest⟩ := hp
    refine ⟨hact, htorn, ⟨e, ?_, he⟩, fun answer => ih answer (hrest answer)⟩
    dsimp only
    rw [hnext]
    rfl

theorem Checks.mapError {f : ε → ε'} {E' : ε' → Prop} (hp : p.Checks E) (hE : ∀ e, E e → E' (f e)) :
    (p.mapError f).Checks E' := by
  induction p with
  | done result => trivial
  | call act torn next ih =>
    obtain ⟨hact, htorn, ⟨e, hnext, he⟩, hrest⟩ := hp
    refine ⟨hact, htorn, ⟨f e, ?_, hE e he⟩, fun answer => ih answer (hrest answer)⟩
    dsimp only
    rw [hnext]
    rfl

/-- Looking at the result of a check is a check, where the errors of failing calls are
passed on. -/
theorem Checks.attempt_bind {f : Except ε α → Program σ ε' β} {E' : ε' → Prop} (hp : p.Checks E)
    (hfault : ∀ e, E e → ∃ e', f (.error e) = .done (.error e') ∧ E' e') (hf : ∀ r, (f r).Checks E') :
    (p.attempt >>= f).Checks E' := by
  induction p with
  | done result => exact hf result
  | call act torn next ih =>
    obtain ⟨hact, htorn, ⟨e, hnext, he⟩, hrest⟩ := hp
    obtain ⟨e', hf', he'⟩ := hfault e he
    refine ⟨hact, htorn, ⟨e', ?_, he'⟩, fun answer => ih answer (hrest answer)⟩
    dsimp only
    rw [hnext]
    exact hf'

theorem Checks.syscall (hact : ∀ s b s', act s = .ok (b, s') → s' = s) (he : E (onError .device)) :
    (Program.syscall onError act).Checks E := by
  refine ⟨fun s => ?_, fun _ _ => rfl, ⟨_, rfl, he⟩, fun _ => trivial⟩
  rcases h : act s with kind | ⟨b, s'⟩
  · rw [settle_error h]
  · rw [settle_ok h]
    exact hact s b s' h

theorem Checks.finish_state (h : p.Checks E) (s : σ) : (p.finish s).2 = s := by
  induction p generalizing s with
  | done result => rfl
  | call act torn next ih =>
    obtain ⟨hact, -, -, hrest⟩ := h
    rw [finish, ih _ (hrest _), hact]

theorem Checks.finish_eq (h : p.Checks E) (s : σ) :
    p.finish s = ((p.finish s).1, s) := Prod.ext rfl (h.finish_state s)

theorem Checks.wp {Q : Except ε α → σ → Prop} (h : p.Checks E) (hcrash : C s)
    (hfault : faulty = true → ∀ e, E e → Q (.error e) s) (hresult : Q (p.finish s).1 s) :
    p.wp faulty C Q s := by
  induction p with
  | done result => exact hresult
  | call act torn next ih =>
    obtain ⟨hact, htorn, ⟨e, hnext, he⟩, hrest⟩ := h
    refine ⟨fun progress => ?_, fun hfaulty progress => ?_, ?_⟩
    · rw [htorn]
      exact hcrash
    · rw [htorn, hnext]
      exact hfault hfaulty e he
    · have hfinish := hresult
      rw [Program.finish, hact] at hfinish
      rw [hact]
      exact ih _ (hrest _) hfinish

theorem Checks.wp_bind (h : p.Checks E) (hcrash : C s)
    (hfault : faulty = true → ∀ e, E e → Q (.error e) s)
    (herror : ∀ e, (p.finish s).1 = .error e → Q (.error e) s)
    (hok : ∀ a, (p.finish s).1 = .ok a → (f a).wp faulty C Q s) :
    (p >>= f).wp faulty C Q s := by
  refine Program.wp_bind (h.wp hcrash hfault ?_)
  rcases hresult : (p.finish s).1 with e | a
  · exact herror e hresult
  · exact hok a hresult

theorem Checks.wp_attempt_bind {f : Except ε α → Program σ ε' β} {Q : Except ε' β → σ → Prop}
    (h : p.Checks E) (hcrash : C s)
    (hfault : faulty = true → ∀ e, E e → (f (.error e)).wp faulty C Q s)
    (hresult : (f (p.finish s).1).wp faulty C Q s) : (p.attempt >>= f).wp faulty C Q s :=
  Program.wp_bind (wp_attempt (h.wp hcrash hfault hresult))

/-! ## Relations that a program keeps -/

/-- Wherever the program stops, the state is related to the one it began in. -/
def Keeps (R : σ → σ → Prop) (p : Program σ ε α) : Prop :=
  ∀ faulty s, p.wp faulty (R s) (fun _ => R s) s

section

variable {R : σ → σ → Prop}

theorem Keeps.done (hrefl : ∀ s, R s s) (result : Except ε α) :
    (Program.done result : Program σ ε α).Keeps R := fun _ s => hrefl s

theorem Keeps.bind (htrans : ∀ s t u, R s t → R t u → R s u) {p : Program σ ε α}
    {f : α → Program σ ε β} (hp : p.Keeps R) (hf : ∀ a, (f a).Keeps R) : (p >>= f).Keeps R := by
  intro faulty s
  refine Program.wp_bind (wp_mono (hp faulty s) fun result t ht => ?_)
  rcases result with e | a
  · exact ht
  · exact wp_weaken (hf a faulty t) (fun u => htrans s t u ht) fun _ u => htrans s t u ht

theorem Keeps.attempt {p : Program σ ε α} (hp : p.Keeps R) :
    (p.attempt : Program σ ε' _).Keeps R := fun faulty s => wp_attempt (hp faulty s)

theorem Checks.keeps (hrefl : ∀ s, R s s) {p : Program σ ε α} (h : p.Checks E) : p.Keeps R :=
  fun _ s => h.wp (hrefl s) (fun _ _ _ => hrefl s) (hrefl s)

theorem Checks.keeps_bind (hrefl : ∀ s, R s s) {p : Program σ ε α} {f : α → Program σ ε β}
    (h : p.Checks E) (hf : ∀ s a, (p.finish s).1 = .ok a → (f a).Keeps R) : (p >>= f).Keeps R :=
  fun faulty s => h.wp_bind (hrefl s) (fun _ _ _ => hrefl s) (fun _ _ => hrefl s)
    fun a ha => hf s a ha faulty s

theorem Checks.keeps_attempt_bind (hrefl : ∀ s, R s s) {p : Program σ ε α}
    {f : Except ε α → Program σ ε' β} (h : p.Checks E) (herror : ∀ e, (f (.error e)).Keeps R)
    (hf : ∀ s a, (p.finish s).1 = .ok a → (f (.ok a)).Keeps R) : (p.attempt >>= f).Keeps R := by
  refine fun faulty s => h.wp_attempt_bind (hrefl s) (fun _ e _ => herror e faulty s) ?_
  rcases hresult : (p.finish s).1 with e | a
  · exact herror e faulty s
  · exact hf s a hresult faulty s

theorem Keeps.syscallTorn {onError : IoErrorKind → ε} {act : σ → Except IoErrorKind (β × σ)}
    {torn : ℕ → σ → σ} (hrefl : ∀ s, R s s) (htorn : ∀ progress s, R s (torn progress s))
    (hact : ∀ s b s', act s = .ok (b, s') → R s s') :
    (Program.syscallTorn onError act torn).Keeps R := fun _ s =>
  wp_syscallTorn (fun progress => htorn progress s) (fun _ progress => htorn progress s)
    (fun _ _ => hrefl s) (hact s)

theorem Keeps.syscall {onError : IoErrorKind → ε} {act : σ → Except IoErrorKind (β × σ)}
    (hrefl : ∀ s, R s s) (hact : ∀ s b s', act s = .ok (b, s') → R s s') :
    (Program.syscall onError act).Keeps R :=
  Keeps.syscallTorn hrefl (fun _ => hrefl) hact

theorem Keeps.finish {p : Program σ ε α} (hp : p.Keeps R) (s : σ) : R s (p.finish s).2 :=
  finish_of_wp (hp false s)

end

end Program

end CrashProgram
