/-
# The bounds on the work of the password calls

A verification that started is paid for by a failure in the throttle or by a call that still holds
its slot, as long as every call that started one goes on to record its outcome.
-/
import MusicServer.PasswordWork

namespace MusicServer

namespace Auth

/-! ## What a call stands for -/

def CallPhase.holdsSlot : CallPhase → Bool
  | .arrived | .checking _ | .checked | .abandoned | .over _ => false
  | _ => true

/-- A slot is held, and the outcome is not recorded. -/
def CallPhase.pending : CallPhase → Bool
  | .leaving _ => false
  | phase => phase.holdsSlot

/-- A slot is held, and no verification has started. -/
def CallPhase.waits : CallPhase → Bool
  | .admitted | .lookingUp => true
  | _ => false

namespace PasswordCall

def waitsIn (scope : Scope) (call : PasswordCall) : Bool :=
  call.phase.waits && scope.covers call.throttleKey

/-- The verification of the call started from an instant on, and its outcome is not recorded. -/
def unrecorded (scope : Scope) (start : ℕ) (call : PasswordCall) : Bool :=
  call.phase.pending && !call.phase.waits && scope.covers call.throttleKey &&
    call.startedAt.any (fun instant => start ≤ instant)

/-- The instants of a call are in the past, and in order. -/
structure Timed (clock : ℕ) (call : PasswordCall) : Prop where
  kept : call.phase ≠ .abandoned
  checking : ∀ now, call.phase = .checking now → now ≤ clock
  recording : ∀ now, call.phase = .recording now →
    now ≤ clock ∧ ∀ instant ∈ call.startedAt, instant ≤ now
  started : ∀ instant ∈ call.startedAt, instant ≤ clock

theorem Timed.mono {call : PasswordCall} {clock later : ℕ} (h : call.Timed clock)
    (hlater : clock ≤ later) : call.Timed later where
  kept := h.kept
  checking := fun now hnow => (h.checking now hnow).trans hlater
  recording := fun now hnow => ⟨(h.recording now hnow).1.trans hlater, (h.recording now hnow).2⟩
  started := fun instant hinstant => (h.started instant hinstant).trans hlater

theorem Timed.enter {call : PasswordCall} {clock : ℕ} (h : call.Timed clock) {phase : CallPhase}
    (hkept : phase ≠ .abandoned) (hchecking : ∀ now, phase = .checking now → now = clock)
    (hrecording : ∀ now, phase = .recording now → now = clock) :
    (call.enter phase).Timed clock where
  kept := hkept
  checking := fun now hnow => (hchecking now hnow).le
  recording := fun now hnow => by
    rw [hrecording now hnow]
    exact ⟨le_rfl, h.started⟩
  started := h.started

end PasswordCall

theorem CallPhase.holdsSlot_of_pending {phase : CallPhase} (h : phase.pending = true) :
    phase.holdsSlot = true := by
  cases phase <;> first | rfl | cases h

theorem CallPhase.pending_of_waits {phase : CallPhase} (h : phase.waits = true) :
    phase.pending = true := by
  cases phase <;> first | rfl | cases h

/-- A call that goes from one phase to the other keeps what it stands for, or no longer waits. -/
def CallPhase.steady (phase next : CallPhase) : Bool :=
  next.holdsSlot == phase.holdsSlot && next.pending == phase.pending &&
    (!next.waits || phase.waits)

/-! ## Counting calls -/

theorem countP_set_add {α : Type} {l : List α} {i : ℕ} {a b : α} (ha : l[i]? = some a)
    (p : α → Bool) :
    (l.set i b).countP p + (p a).toNat = l.countP p + (p b).toNat := by
  induction l generalizing i with
  | nil => simp at ha
  | cons head tail ih =>
    cases i with
    | zero =>
      simp only [List.getElem?_cons_zero, Option.some.injEq] at ha
      subst ha
      simp only [List.set_cons_zero, List.countP_cons, Bool.toNat]
      cases p head <;> cases p b <;> simp
    | succ i =>
      have hrest := ih (i := i) (by simpa using ha)
      simp only [List.set_cons_succ, List.countP_cons]
      omega

theorem countP_add_countP_le {α : Type} {p q r : α → Bool} (hp : ∀ a, p a = true → r a = true)
    (hq : ∀ a, q a = true → r a = true) (hdisjoint : ∀ a, p a = true → q a = false)
    (l : List α) : l.countP p + l.countP q ≤ l.countP r := by
  induction l with
  | nil => simp
  | cons head tail ih =>
    simp only [List.countP_cons]
    by_cases hhead : p head = true
    · rw [if_pos hhead, if_pos (hp head hhead), hdisjoint head hhead]
      simp only [Bool.false_eq_true, if_false]
      omega
    · rw [if_neg hhead]
      by_cases hother : q head = true
      · rw [if_pos hother, if_pos (hq head hother)]
        omega
      · rw [if_neg hother]
        omega

theorem forall_mem_set {α : Type} {P : α → Prop} {l : List α} {i : ℕ} {b : α}
    (h : ∀ a ∈ l, P a) (hb : P b) : ∀ a ∈ l.set i b, P a := by
  intro a ha
  rcases List.mem_or_eq_of_mem_set ha with hold | hnew
  · exact h a hold
  · exact hnew ▸ hb

/-! ## The invariant -/

/-- The verifications of a scope that started from an instant on. -/
def PasswordWorld.startedSince (world : PasswordWorld) (scope : Scope) (start : ℕ) : ℕ :=
  world.auth.started.countP fun verification => scope.covers verification.key &&
    start ≤ verification.instant

structure PasswordWorld.Bounded (config : LoginThrottleConfig) (slots : ℕ)
    (world : PasswordWorld) : Prop where
  permits : world.auth.passwordSlots + world.calls.countP (fun call => call.phase.holdsSlot) = slots
  timed : ∀ call ∈ world.calls, call.Timed world.auth.clock
  past : ∀ verification ∈ world.auth.started, verification.instant ≤ world.auth.clock
  kept : world.auth.failures.length + world.calls.countP (fun call => call.phase.pending) <
    config.globalFailures + slots
  /-- Each start is a failure that was recorded since, or a call that will record one. -/
  covered : ∀ scope start, world.auth.clock < start + config.window →
    world.NoSuccess config start → world.startedSince scope start ≤
      world.auth.failures.since scope start + world.calls.countP (·.unrecorded scope start)
  admitted : ∀ scope start, world.auth.clock < start + config.window →
    world.NoSuccess config start →
      world.startedSince scope start + world.calls.countP (·.waitsIn scope) <
        config.limit scope + slots
  within : ∀ scope start, world.NoSuccess config start →
    world.startedWithin config scope start < config.limit scope + slots

section Steps

variable {config : LoginThrottleConfig} {slots : ℕ} {world : PasswordWorld}

theorem PasswordWorld.new_bounded (config : LoginThrottleConfig)
    (hlimit : ∀ scope, 0 < config.limit scope + argon2Concurrency) :
    PasswordWorld.new.Bounded config argon2Concurrency where
  permits := rfl
  timed := by simp [PasswordWorld.new]
  past := by simp [PasswordWorld.new, RuntimeAuth.new]
  kept := hlimit none
  covered := fun scope start _ _ => Nat.zero_le _
  admitted := fun scope start _ _ => hlimit scope
  within := fun scope start _ => hlimit scope

theorem PasswordWorld.startedWithin_of_lt (hpast : ∀ verification ∈ world.auth.started,
    verification.instant ≤ world.auth.clock) (scope : Scope) {start : ℕ}
    (hclock : world.auth.clock < start + config.window) :
    world.startedWithin config scope start = world.startedSince scope start := by
  refine List.countP_congr fun verification hverification => ?_
  have hinstant := hpast verification hverification
  simp only [Bool.and_eq_true, decide_eq_true_eq]
  constructor
  · exact fun ⟨hscope, hstart, _⟩ => ⟨hscope, hstart⟩
  · exact fun ⟨hscope, hstart⟩ => ⟨hscope, hstart, by omega⟩

theorem PasswordWorld.Bounded.tick (h : world.Bounded config slots) (elapsed : ℕ) :
    ({ world with auth := { world.auth with clock := world.auth.clock + elapsed } } :
      PasswordWorld).Bounded config slots where
  permits := h.permits
  timed := fun call hcall => (h.timed call hcall).mono (Nat.le_add_right _ _)
  past := fun verification hverification =>
    (h.past verification hverification).trans (Nat.le_add_right _ _)
  kept := h.kept
  covered := fun scope start hclock hnone =>
    h.covered scope start (lt_of_le_of_lt (Nat.le_add_right _ _) hclock) hnone
  admitted := fun scope start hclock hnone =>
    h.admitted scope start (lt_of_le_of_lt (Nat.le_add_right _ _) hclock) hnone
  within := h.within

theorem PasswordWorld.Bounded.arrive (h : world.Bounded config slots) (kind : PasswordCallKind)
    (throttleKey username password : String) :
    ({ world with
      calls := world.calls ++ [⟨kind, throttleKey, username, password, .arrived, none⟩] } :
      PasswordWorld).Bounded config slots where
  permits := by
    rw [List.countP_append]
    exact h.permits
  timed := by
    intro call hcall
    rcases List.mem_append.mp hcall with hcall | hcall
    · exact h.timed call hcall
    · rw [List.mem_singleton.mp hcall]
      exact ⟨by simp, by simp, by simp, by simp⟩
  past := h.past
  kept := by
    rw [List.countP_append]
    exact h.kept
  covered := fun scope start hclock hnone => by
    rw [List.countP_append]
    exact h.covered scope start hclock hnone
  admitted := fun scope start hclock hnone => by
    rw [List.countP_append]
    exact h.admitted scope start hclock hnone
  within := h.within

variable {index : ℕ} {call next : PasswordCall}

theorem PasswordWorld.Bounded.settle (h : world.Bounded config slots)
    (hcall : world.calls[index]? = some call) {failures : Failures} {passwordSlots : ℕ}
    (hpermits : passwordSlots + next.phase.holdsSlot.toNat =
      world.auth.passwordSlots + call.phase.holdsSlot.toNat)
    (htimed : next.Timed world.auth.clock)
    (hkept : failures.length + next.phase.pending.toNat ≤
      world.auth.failures.length + call.phase.pending.toNat)
    (hcovered : ∀ scope start, world.auth.clock < start + config.window →
      world.auth.failures.since scope start + (call.unrecorded scope start).toNat ≤
        failures.since scope start + (next.unrecorded scope start).toNat)
    (hwaits : ∀ scope, (next.waitsIn scope).toNat ≤ (call.waitsIn scope).toNat) :
    (⟨{ world.auth with failures := failures, passwordSlots := passwordSlots },
      world.calls.set index next⟩ : PasswordWorld).Bounded config slots where
  permits := by
    have hcount := countP_set_add (b := next) hcall fun call => call.phase.holdsSlot
    have hbefore := h.permits
    dsimp only at hcount ⊢
    omega
  timed := forall_mem_set h.timed htimed
  past := h.past
  kept := by
    have hcount := countP_set_add (b := next) hcall fun call => call.phase.pending
    have hbefore := h.kept
    dsimp only at hcount ⊢
    omega
  covered := fun scope start hclock hnone => by
    have hcount := countP_set_add (b := next) hcall (·.unrecorded scope start)
    have hbefore := h.covered scope start hclock hnone
    have hmove := hcovered scope start hclock
    change world.startedSince scope start ≤ _
    dsimp only
    omega
  admitted := fun scope start hclock hnone => by
    have hcount := countP_set_add (b := next) hcall (·.waitsIn scope)
    have hbefore := h.admitted scope start hclock hnone
    have hmove := hwaits scope
    change world.startedSince scope start + _ < _
    dsimp only
    omega
  within := h.within

theorem PasswordWorld.Bounded.pending_le (h : world.Bounded config slots) (scope : Scope)
    (start : ℕ) :
    world.calls.countP (·.unrecorded scope start) + world.calls.countP (·.waitsIn scope) +
      world.auth.passwordSlots ≤ slots := by
  have hholds : world.calls.countP (·.unrecorded scope start) +
      world.calls.countP (·.waitsIn scope) ≤ world.calls.countP (·.phase.holdsSlot) := by
    refine countP_add_countP_le (fun call hcall => ?_) (fun call hcall => ?_)
      (fun call hcall => ?_) world.calls
    · simp only [PasswordCall.unrecorded, Bool.and_eq_true] at hcall
      exact CallPhase.holdsSlot_of_pending hcall.1.1.1
    · simp only [PasswordCall.waitsIn, Bool.and_eq_true] at hcall
      exact CallPhase.holdsSlot_of_pending (CallPhase.pending_of_waits hcall.1)
    · simp only [PasswordCall.unrecorded, Bool.and_eq_true, Bool.not_eq_true'] at hcall
      simp only [PasswordCall.waitsIn, hcall.1.1.2, Bool.false_and]
  have hpermits := h.permits
  omega

theorem PasswordWorld.Bounded.acquire (h : world.Bounded config slots)
    (hcall : world.calls[index]? = some call) (hphase : call.phase = .checked)
    (hfree : 0 < world.auth.passwordSlots)
    (hunder : config.overLimit world.auth.failures call.throttleKey = false) :
    (⟨{ world.auth with passwordSlots := world.auth.passwordSlots - 1 },
      world.calls.set index (call.enter .admitted)⟩ : PasswordWorld).Bounded config slots where
  permits := by
    have hcount := countP_set_add (b := call.enter .admitted) hcall
      fun call => call.phase.holdsSlot
    have hbefore := h.permits
    have hcalm : call.phase.holdsSlot = false := by
      rw [hphase]
      rfl
    have hnew : (call.enter .admitted).phase.holdsSlot = true := rfl
    dsimp only at hcount ⊢
    rw [hcalm, hnew, Bool.toNat_false, Bool.toNat_true] at hcount
    omega
  timed := by
    have htimed := h.timed call (List.mem_of_getElem? hcall)
    exact forall_mem_set h.timed (htimed.enter (by simp) (by simp) (by simp))
  past := h.past
  kept := by
    have hcount := countP_set_add (b := call.enter .admitted) hcall fun call => call.phase.pending
    have hglobal : world.auth.failures.length < config.globalFailures := by
      simp only [LoginThrottleConfig.overLimit, Bool.or_eq_false_iff, decide_eq_false_iff_not,
        not_le] at hunder
      exact hunder.2
    have hpending : world.calls.countP (·.phase.pending) ≤
        world.calls.countP (·.phase.holdsSlot) :=
      List.countP_mono_left fun call _ => CallPhase.holdsSlot_of_pending
    have hpermits := h.permits
    have hcalm : call.phase.pending = false := by
      rw [hphase]
      rfl
    have hnew : (call.enter .admitted).phase.pending = true := rfl
    dsimp only at hcount ⊢
    rw [hcalm, hnew, Bool.toNat_false, Bool.toNat_true] at hcount
    omega
  covered := fun scope start hclock hnone => by
    have hcount := countP_set_add (b := call.enter .admitted) hcall (·.unrecorded scope start)
    have hbefore := h.covered scope start hclock hnone
    have hcalm : call.unrecorded scope start = false := by
      simp [PasswordCall.unrecorded, hphase, CallPhase.pending, CallPhase.holdsSlot]
    change world.startedSince scope start ≤ _
    rw [hcalm] at hcount
    dsimp only
    simp only [Bool.toNat_false] at hcount
    omega
  admitted := fun scope start hclock hnone => by
    have hcount := countP_set_add (b := call.enter .admitted) hcall (·.waitsIn scope)
    have hbefore := h.admitted scope start hclock hnone
    have hcalm : call.waitsIn scope = false := by
      simp [PasswordCall.waitsIn, hphase, CallPhase.waits]
    have hnew : (call.enter .admitted).waitsIn scope = scope.covers call.throttleKey := by
      simp [PasswordCall.waitsIn, PasswordCall.enter, CallPhase.waits]
    change world.startedSince scope start + _ < _
    rw [hcalm, hnew] at hcount
    dsimp only
    cases hscope : scope.covers call.throttleKey with
    | false =>
      simp only [hscope, Bool.toNat_false] at hcount
      omega
    | true =>
      -- what started is paid for by failures under the limit and by the other slots
      have hcovered := h.covered scope start hclock hnone
      have hlimit := since_lt_limit hunder hscope start
      have hpending := h.pending_le scope start
      simp only [hscope, Bool.toNat_false, Bool.toNat_true] at hcount
      omega
  within := h.within

theorem PasswordWorld.startedSince_startVerification (throttleKey : String)
    (calls : List PasswordCall) (scope : Scope) (start : ℕ) :
    PasswordWorld.startedSince ⟨world.auth.startVerification throttleKey, calls⟩ scope start =
      world.startedSince scope start +
        (scope.covers throttleKey && decide (start ≤ world.auth.clock)).toNat := by
  unfold PasswordWorld.startedSince RuntimeAuth.startVerification
  rw [List.countP_append, List.countP_singleton]
  cases scope.covers throttleKey && decide (start ≤ world.auth.clock) <;> rfl

theorem PasswordWorld.Bounded.startVerification (h : world.Bounded config slots)
    (hcall : world.calls[index]? = some call) (hphase : call.phase = .lookingUp) :
    (⟨world.auth.startVerification call.throttleKey,
      world.calls.set index (call.startVerification world.auth.clock)⟩ :
      PasswordWorld).Bounded config slots := by
  have hpast : ∀ verification ∈ (world.auth.startVerification call.throttleKey).started,
      verification.instant ≤ world.auth.clock := by
    intro verification hverification
    rcases List.mem_append.mp hverification with hverification | hverification
    · exact h.past verification hverification
    · rw [List.mem_singleton.mp hverification]
  have hadmitted : ∀ scope start, world.auth.clock < start + config.window →
      world.NoSuccess config start →
      PasswordWorld.startedSince ⟨world.auth.startVerification call.throttleKey,
          world.calls.set index (call.startVerification world.auth.clock)⟩ scope start +
        (world.calls.set index (call.startVerification world.auth.clock)).countP
          (·.waitsIn scope) < config.limit scope + slots := by
    intro scope start hclock hnone
    have hcount := countP_set_add (b := call.startVerification world.auth.clock) hcall
      (·.waitsIn scope)
    have hbefore := h.admitted scope start hclock hnone
    have hwaits : call.waitsIn scope = scope.covers call.throttleKey := by
      simp [PasswordCall.waitsIn, hphase, CallPhase.waits]
    have hnew : (call.startVerification world.auth.clock).waitsIn scope = false := rfl
    have hle : (scope.covers call.throttleKey && decide (start ≤ world.auth.clock)).toNat ≤
        (scope.covers call.throttleKey).toNat := by
      cases scope.covers call.throttleKey with
      | false => exact le_rfl
      | true => exact Bool.toNat_le _
    rw [hwaits, hnew, Bool.toNat_false] at hcount
    rw [PasswordWorld.startedSince_startVerification]
    omega
  refine ⟨?_, ?_, hpast, ?_, fun scope start hclock hnone => ?_, hadmitted,
    fun scope start hnone => ?_⟩
  · have hcount := countP_set_add (b := call.startVerification world.auth.clock) hcall
      fun call => call.phase.holdsSlot
    have hbefore := h.permits
    have hheld : call.phase.holdsSlot = true := by
      rw [hphase]
      rfl
    have hnew : (call.startVerification world.auth.clock).phase.holdsSlot = true := rfl
    rw [hheld, hnew] at hcount
    change world.auth.passwordSlots + _ = _
    dsimp only at hcount ⊢
    omega
  · refine forall_mem_set h.timed ⟨by simp [PasswordCall.startVerification],
      by simp [PasswordCall.startVerification], by simp [PasswordCall.startVerification],
      fun instant hinstant => ?_⟩
    simp only [PasswordCall.startVerification, Option.mem_def, Option.some.injEq] at hinstant
    exact hinstant.symm.le
  · have hcount := countP_set_add (b := call.startVerification world.auth.clock) hcall
      fun call => call.phase.pending
    have hbefore := h.kept
    have hheld : call.phase.pending = true := by
      rw [hphase]
      rfl
    have hnew : (call.startVerification world.auth.clock).phase.pending = true := rfl
    rw [hheld, hnew] at hcount
    change world.auth.failures.length + _ < _
    dsimp only at hcount ⊢
    omega
  · have hcount := countP_set_add (b := call.startVerification world.auth.clock) hcall
      (·.unrecorded scope start)
    have hbefore := h.covered scope start hclock hnone
    have hcalm : call.unrecorded scope start = false := by
      simp [PasswordCall.unrecorded, hphase, CallPhase.waits]
    have hnew : (call.startVerification world.auth.clock).unrecorded scope start =
        (scope.covers call.throttleKey && decide (start ≤ world.auth.clock)) := by
      simp [PasswordCall.unrecorded, PasswordCall.startVerification, CallPhase.pending,
        CallPhase.holdsSlot, CallPhase.waits]
    rw [hcalm, hnew, Bool.toNat_false] at hcount
    rw [PasswordWorld.startedSince_startVerification]
    change _ ≤ world.auth.failures.since scope start + _
    dsimp only
    omega
  · by_cases hinside : start ≤ world.auth.clock ∧ world.auth.clock < start + config.window
    · have hafter := hadmitted scope start hinside.2 hnone
      have hsame : PasswordWorld.startedWithin config
          ⟨world.auth.startVerification call.throttleKey,
            world.calls.set index (call.startVerification world.auth.clock)⟩ scope start =
          PasswordWorld.startedSince ⟨world.auth.startVerification call.throttleKey,
            world.calls.set index (call.startVerification world.auth.clock)⟩ scope start := by
        refine PasswordWorld.startedWithin_of_lt hpast scope ?_
        exact hinside.2
      rw [hsame]
      exact lt_of_le_of_lt (Nat.le_add_right _ _) hafter
    · -- the interval is over, or has not begun
      have hbefore := h.within scope start hnone
      have houtside : (scope.covers call.throttleKey && (decide (start ≤ world.auth.clock) &&
          decide (world.auth.clock < start + config.window))) = false := by
        rw [Bool.and_eq_false_iff, ← Bool.decide_and, decide_eq_false_iff_not]
        exact Or.inr hinside
      have hsame : PasswordWorld.startedWithin config
          ⟨world.auth.startVerification call.throttleKey,
            world.calls.set index (call.startVerification world.auth.clock)⟩ scope start =
          world.startedWithin config scope start := by
        unfold PasswordWorld.startedWithin RuntimeAuth.startVerification
        rw [List.countP_append, List.countP_singleton]
        simp only [houtside, Bool.false_eq_true, if_false, Nat.add_zero]
      rw [hsame]
      exact hbefore

theorem PasswordWorld.Bounded.recordSuccess (h : world.Bounded config slots)
    (hcall : world.calls[index]? = some call) (hphase : call.phase = .accepted)
    (outcome : CallOutcome) :
    (⟨{ world.auth with
        failures := Auth.recordSuccess world.auth.failures call.throttleKey
        succeeded := world.auth.succeeded ++ [world.auth.clock] },
      world.calls.set index (call.enter (.leaving outcome))⟩ : PasswordWorld).Bounded
      config slots := by
  have hbefore : ∀ start, PasswordWorld.NoSuccess config ⟨{ world.auth with
      failures := Auth.recordSuccess world.auth.failures call.throttleKey
      succeeded := world.auth.succeeded ++ [world.auth.clock] },
      world.calls.set index (call.enter (.leaving outcome))⟩ start →
      world.NoSuccess config start ∧
        ¬ (start ≤ world.auth.clock ∧ world.auth.clock < start + config.window) := by
    intro start hnone
    exact ⟨fun instant hinstant => hnone instant (List.mem_append_left _ hinstant),
      hnone _ (List.mem_append_right _ (List.mem_singleton_self _))⟩
  refine ⟨?_, ?_, h.past, ?_, fun scope start hclock hnone => ?_,
    fun scope start hclock hnone => ?_, fun scope start hnone => ?_⟩
  · have hcount := countP_set_add (b := call.enter (.leaving outcome)) hcall
      fun call => call.phase.holdsSlot
    have hpermits := h.permits
    have hheld : call.phase.holdsSlot = true := by
      rw [hphase]
      rfl
    have hnew : (call.enter (.leaving outcome)).phase.holdsSlot = true := rfl
    rw [hheld, hnew] at hcount
    dsimp only at hcount ⊢
    omega
  · have htimed := h.timed call (List.mem_of_getElem? hcall)
    exact forall_mem_set h.timed (htimed.enter (by simp) (by simp) (by simp))
  · have hcount := countP_set_add (b := call.enter (.leaving outcome)) hcall
      fun call => call.phase.pending
    have hkept := h.kept
    have hheld : call.phase.pending = true := by
      rw [hphase]
      rfl
    have hnew : (call.enter (.leaving outcome)).phase.pending = false := rfl
    have hfewer : (Auth.recordSuccess world.auth.failures call.throttleKey).length ≤
        world.auth.failures.length := List.length_filter_le _ _
    rw [hheld, hnew, Bool.toNat_false, Bool.toNat_true] at hcount
    dsimp only at hcount ⊢
    omega
  · -- nothing has started after the present
    have hfuture := (hbefore start hnone).2
    have hnothing : world.startedSince scope start = 0 := by
      refine List.countP_eq_zero.mpr fun verification hverification => ?_
      have hinstant := h.past verification hverification
      dsimp only at hclock
      simp only [Bool.and_eq_true, decide_eq_true_eq, not_and, not_le]
      intro _
      omega
    change world.startedSince scope start ≤ _
    rw [hnothing]
    exact Nat.zero_le _
  · have hcount := countP_set_add (b := call.enter (.leaving outcome)) hcall (·.waitsIn scope)
    have hold := h.admitted scope start hclock (hbefore start hnone).1
    have hcalm : call.waitsIn scope = false := by
      simp [PasswordCall.waitsIn, hphase, CallPhase.waits]
    have hnew : (call.enter (.leaving outcome)).waitsIn scope = false := rfl
    rw [hcalm, hnew] at hcount
    change world.startedSince scope start + _ < _
    dsimp only
    omega
  · exact h.within scope start (hbefore start hnone).1

theorem PasswordWorld.Bounded.enter (h : world.Bounded config slots)
    (hcall : world.calls[index]? = some call) {phase : CallPhase}
    (htimed : (call.enter phase).Timed world.auth.clock)
    (hsteady : call.phase.steady phase = true) :
    (⟨world.auth, world.calls.set index (call.enter phase)⟩ : PasswordWorld).Bounded
      config slots := by
  simp only [CallPhase.steady, Bool.and_eq_true, beq_iff_eq, Bool.or_eq_true,
    Bool.not_eq_true'] at hsteady
  obtain ⟨⟨hholds, hpending⟩, hsteady⟩ := hsteady
  have hwaits : phase.waits = true → call.phase.waits = true := by
    intro hphase
    rcases hsteady with hnot | hwaits
    · rw [hphase] at hnot
      cases hnot
    · exact hwaits
  refine h.settle hcall ?_ htimed ?_ ?_ ?_
  · rw [show (call.enter phase).phase = phase from rfl, hholds]
  · rw [show (call.enter phase).phase = phase from rfl, hpending]
  · intro scope start _
    refine Nat.add_le_add_left (Bool.toNat_le_toNat fun hold => ?_) _
    simp only [PasswordCall.unrecorded, PasswordCall.enter, Bool.and_eq_true,
      Bool.not_eq_true'] at hold ⊢
    refine ⟨⟨⟨hpending.trans hold.1.1.1, ?_⟩, hold.1.2⟩, hold.2⟩
    by_contra hnew
    have hboth := hold.1.1.2.symm.trans (hwaits (by simpa using hnew))
    cases hboth
  · intro scope
    refine Bool.toNat_le_toNat fun hnew => ?_
    simp only [PasswordCall.waitsIn, PasswordCall.enter, Bool.and_eq_true] at hnew ⊢
    exact ⟨hwaits hnew.1, hnew.2⟩

theorem PasswordWorld.Bounded.finish (h : world.Bounded config slots)
    (hcall : world.calls[index]? = some call) (hholds : call.phase.holdsSlot = true)
    (hcalm : call.phase.pending = false ∨ call.phase.waits = true) (outcome : CallOutcome) :
    (⟨(world.auth.finish call outcome).1,
      world.calls.set index (world.auth.finish call outcome).2⟩ : PasswordWorld).Bounded
      config slots := by
  have htimed := h.timed call (List.mem_of_getElem? hcall)
  refine h.settle hcall ?_ (htimed.enter (by simp) (by simp) (by simp)) ?_ ?_ ?_
  · rw [hholds]
    rfl
  · exact Nat.add_le_add_left (Nat.zero_le _) _
  · intro scope start _
    have hnone : call.unrecorded scope start = false := by
      rcases hcalm with hcalm | hcalm <;> simp [PasswordCall.unrecorded, hcalm]
    rw [hnone]
    exact Nat.add_le_add_left (Nat.zero_le _) _
  · intro scope
    exact Nat.zero_le _

theorem PasswordWorld.Bounded.check (h : world.Bounded config slots) (hwindow : 0 < config.window)
    (hcall : world.calls[index]? = some call) {now : ℕ} (hphase : call.phase = .checking now)
    {phase : CallPhase} (hnext : phase = .over .throttled ∨ phase = .checked) :
    (⟨{ world.auth with failures := retainRecent world.auth.failures now config.window },
      world.calls.set index (call.enter phase)⟩ : PasswordWorld).Bounded config slots := by
  have htimed := h.timed call (List.mem_of_getElem? hcall)
  have hbefore : call.phase.holdsSlot = false ∧ call.phase.pending = false ∧
      call.phase.waits = false := by
    rw [hphase]
    exact ⟨rfl, rfl, rfl⟩
  have hafter : phase.holdsSlot = false ∧ phase.pending = false ∧ phase.waits = false := by
    rcases hnext with hnext | hnext <;> rw [hnext] <;> exact ⟨rfl, rfl, rfl⟩
  refine h.settle hcall ?_ (htimed.enter ?_ ?_ ?_) ?_ ?_ ?_
  · rw [hbefore.1, show (call.enter phase).phase = phase from rfl, hafter.1]
  · rcases hnext with hnext | hnext <;> simp [hnext]
  · rcases hnext with hnext | hnext <;> simp [hnext]
  · rcases hnext with hnext | hnext <;> simp [hnext]
  · rw [hbefore.2.1, show (call.enter phase).phase = phase from rfl, hafter.2.1]
    exact Nat.add_le_add_right (length_retainRecent_le _ _ _) _
  · intro scope start hclock
    have hnow := htimed.checking now hphase
    rw [since_retainRecent _ scope hwindow (by omega)]
    simp [PasswordCall.unrecorded, hbefore.2.1]
  · intro scope
    simp [PasswordCall.waitsIn, PasswordCall.enter, hafter.2.2]

theorem PasswordWorld.Bounded.recordFailure (h : world.Bounded config slots)
    (hwindow : 0 < config.window) (hkeys : config.globalFailures + slots ≤ config.maximumKeys + 1)
    (hcall : world.calls[index]? = some call) {now : ℕ} (hphase : call.phase = .recording now)
    (outcome : CallOutcome) :
    (⟨{ world.auth with
        failures := config.recordFailureAt world.auth.failures call.throttleKey now },
      world.calls.set index (call.enter (.leaving outcome))⟩ : PasswordWorld).Bounded
      config slots := by
  have htimed := h.timed call (List.mem_of_getElem? hcall)
  obtain ⟨hnow, hstarted⟩ := htimed.recording now hphase
  have hbefore : call.phase.holdsSlot = true ∧ call.phase.pending = true ∧
      call.phase.waits = false := by
    rw [hphase]
    exact ⟨rfl, rfl, rfl⟩
  have hroom : world.auth.failures.length < config.maximumKeys := by
    have hkept := h.kept
    have hone : 0 < world.calls.countP (·.phase.pending) :=
      List.countP_pos_iff.mpr ⟨call, List.mem_of_getElem? hcall, hbefore.2.1⟩
    omega
  refine h.settle hcall ?_ (htimed.enter (by simp) (by simp) (by simp)) ?_ ?_ ?_
  · rw [hbefore.1]
    rfl
  · rw [hbefore.2.1]
    exact length_recordFailureAt_le call.throttleKey now
  · intro scope start hclock
    rw [since_recordFailureAt hwindow hroom call.throttleKey (by omega) scope]
    have hpaid : (call.unrecorded scope start).toNat ≤
        if scope.covers call.throttleKey ∧ start ≤ now then 1 else 0 := by
      split
      · exact Bool.toNat_le _
      · rename_i hnot
        have hnone : call.unrecorded scope start = false := by
          rw [Bool.eq_false_iff]
          intro hunrecorded
          simp only [PasswordCall.unrecorded, Bool.and_eq_true, Option.any_eq_true,
            decide_eq_true_eq] at hunrecorded
          obtain ⟨⟨_, hscope⟩, instant, hinstant, hstart⟩ := hunrecorded
          exact hnot ⟨hscope, hstart.trans (hstarted instant hinstant)⟩
        rw [hnone]
        exact le_rfl
    exact (Nat.add_le_add_left hpaid _).trans (Nat.le_add_right _ _)
  · intro scope
    exact Nat.zero_le _

theorem PasswordWorld.Bounded.move (h : world.Bounded config slots) (hwindow : 0 < config.window)
    (hkeys : config.globalFailures + slots ≤ config.maximumKeys + 1)
    (hcall : world.calls[index]? = some call) {move : CallMove} {auth : RuntimeAuth}
    (hmove : world.auth.move config call move = some (auth, next))
    (haccounts : world.auth.Accounts config call move) :
    (⟨auth, world.calls.set index next⟩ : PasswordWorld).Bounded config slots := by
  have htimed := h.timed call (List.mem_of_getElem? hcall)
  cases move with
  | resume =>
    simp only [RuntimeAuth.move] at hmove
    split at hmove
    · rename_i hphase
      cases hmove
      exact h.enter hcall (htimed.enter (by simp) (by simp) (by simp)) (by rw [hphase]; rfl)
    · rename_i now hphase
      cases hmove
      refine h.check hwindow hcall hphase ?_
      split
      · exact Or.inl rfl
      · exact Or.inr rfl
    · rename_i hphase
      split at hmove
      · rename_i hfree
        cases hmove
        exact h.acquire hcall hphase hfree (haccounts.2 hphase hfree)
      · cases hmove
        exact h.enter hcall (htimed.enter (by simp) (by simp) (by simp)) (by rw [hphase]; rfl)
    · rename_i hphase
      cases hmove
      split <;>
        exact h.enter hcall (htimed.enter (by simp) (by simp) (by simp)) (by rw [hphase]; rfl)
    · rename_i hphase
      cases hmove
      split <;>
        exact h.enter hcall (htimed.enter (by simp) (by simp) (by simp)) (by rw [hphase]; rfl)
    · rename_i hphase
      cases hmove
      exact h.enter hcall (htimed.enter (by simp) (by simp) (by simp)) (by rw [hphase]; rfl)
    · rename_i hphase
      exact absurd hphase haccounts.1
    · rename_i hphase
      cases hmove
      exact h.recordSuccess hcall hphase .succeeded
    · rename_i hphase
      cases hmove
      exact h.enter hcall (htimed.enter (by simp) (by simp) (by simp)) (by rw [hphase]; rfl)
    · rename_i now hphase
      cases hmove
      exact h.recordFailure hwindow hkeys hcall hphase .invalidCredentials
    · rename_i outcome hphase
      cases hmove
      exact h.finish hcall (by rw [hphase]; rfl) (Or.inl (by rw [hphase]; rfl)) outcome
    · cases hmove
  | lookup found =>
    simp only [RuntimeAuth.move] at hmove
    split at hmove
    · rename_i hphase
      split at hmove
      · cases hmove
        exact h.startVerification hcall hphase
      · cases hmove
        exact h.finish hcall (by rw [hphase]; rfl) (Or.inr (by rw [hphase]; rfl)) .internal
    · cases hmove
  | verification answer =>
    simp only [RuntimeAuth.move] at hmove
    split at hmove
    · rename_i hphase
      cases hmove
      exact h.enter hcall (htimed.enter (by simp) (by simp) (by simp)) (by rw [hphase]; rfl)
    · rename_i hphase
      exact absurd hphase htimed.kept
    · cases hmove
  | session created =>
    simp only [RuntimeAuth.move] at hmove
    split at hmove
    · rename_i hphase
      have hcreated : created = true := haccounts
      rw [if_pos hcreated] at hmove
      cases hmove
      exact h.enter hcall (htimed.enter (by simp) (by simp) (by simp)) (by rw [hphase]; rfl)
    · cases hmove
  | drop =>
    have hphase : call.phase = .lookingUp := haccounts
    simp only [RuntimeAuth.move, hphase] at hmove
    cases hmove
    exact h.finish hcall (by rw [hphase]; rfl) (Or.inr (by rw [hphase]; rfl)) .dropped

theorem PasswordWorld.Bounded.step (h : world.Bounded config slots) (hwindow : 0 < config.window)
    (hkeys : config.globalFailures + slots ≤ config.maximumKeys + 1) {event : PasswordEvent}
    {after : PasswordWorld} (hstep : world.step config event = some after)
    (haccounts : world.Accounts config event) : after.Bounded config slots := by
  cases event with
  | tick elapsed =>
    cases hstep
    exact h.tick elapsed
  | arrive kind throttleKey username password =>
    cases hstep
    exact h.arrive kind throttleKey username password
  | call index move =>
    simp only [PasswordWorld.step] at hstep
    split at hstep
    · rename_i call hcall
      split at hstep
      · rename_i auth next hmove
        cases hstep
        exact h.move hwindow hkeys hcall hmove (haccounts call hcall)
      · cases hstep
    · cases hstep

theorem PasswordWorld.Bounded.run (hwindow : 0 < config.window)
    (hkeys : config.globalFailures + slots ≤ config.maximumKeys + 1) {events : List PasswordEvent} :
    ∀ {world last : PasswordWorld}, world.Bounded config slots →
      world.run config events = some last → world.AccountsRun config events →
      last.Bounded config slots := by
  induction events with
  | nil =>
    intro world last h hrun _
    cases hrun
    exact h
  | cons event rest ih =>
    intro world last h hrun haccounts
    simp only [PasswordWorld.run] at hrun
    split at hrun
    · rename_i next hnext
      exact ih (h.step hwindow hkeys hnext haccounts.1) hrun (haccounts.2 next hnext)
    · cases hrun

theorem PasswordWorld.Bounded.running_le (h : world.Bounded config slots) :
    world.running ≤ slots := by
  have hholds : world.running ≤ world.calls.countP (·.phase.holdsSlot) := by
    refine List.countP_mono_left fun call hcall hrunning => ?_
    simp only [Bool.or_eq_true, decide_eq_true_eq] at hrunning
    rcases hrunning with hphase | hphase
    · rw [hphase]
      rfl
    · exact absurd hphase (h.timed call hcall).kept
  have hpermits := h.permits
  omega

end Steps

/-! ## The bounds -/

/-- At most as many verifications run as there are slots, and the verifications that start within a
window without a success stay within the limits and the slots, in every run that accounts for what
it does. -/
theorem password_work_bounded {events : List PasswordEvent} {world : PasswordWorld}
    (hrun : PasswordWorld.new.run .default events = some world)
    (haccounts : PasswordWorld.new.AccountsRun .default events) :
    world.running ≤ argon2Concurrency ∧
      ∀ start, world.NoSuccess .default start →
        world.startedWithin .default none start ≤
            LoginThrottleConfig.default.globalFailures + argon2Concurrency - 1 ∧
          ∀ key, world.startedWithin .default (some key) start ≤
            LoginThrottleConfig.default.perKeyFailures + argon2Concurrency - 1 := by
  have hlimit : ∀ scope, 0 < LoginThrottleConfig.default.limit scope + argon2Concurrency :=
    fun scope => Nat.add_pos_right _ (by decide)
  have hbounded : world.Bounded .default argon2Concurrency :=
    (PasswordWorld.new_bounded .default hlimit).run (by decide) (by decide) hrun haccounts
  refine ⟨hbounded.running_le, fun start hnone => ⟨?_, fun key => ?_⟩⟩
  · exact Nat.le_sub_one_of_lt (hbounded.within none start hnone)
  · exact Nat.le_sub_one_of_lt (hbounded.within (some key) start hnone)

def startedCall (index : ℕ) (key : String) : List PasswordEvent :=
  [.arrive .login key "operator" "guess", .call index .resume, .call index .resume,
    .call index .resume, .call index .resume, .call index (.lookup true)]

theorem password_work_bounded_refused :
    ∃ world, PasswordWorld.new.run .default (startedCall 0 "client" ++
        [.call 0 (.verification .rejected), .call 0 .resume, .call 0 .resume, .call 0 .resume,
          .call 0 .resume]) = some world ∧
      world.startedWithin .default none 0 = 1 ∧ world.auth.failures = [⟨"client", 0⟩] ∧
      world.running ≤ argon2Concurrency := by
  refine ⟨_, rfl, by decide, by decide, ?_⟩
  have hrun : PasswordWorld.new.run .default (startedCall 0 "client" ++
      [.call 0 (.verification .rejected), .call 0 .resume, .call 0 .resume, .call 0 .resume,
        .call 0 .resume]) = some _ := rfl
  exact (password_work_bounded hrun (by decide)).1

/-- Two requests go away while their passwords are verified, and a third finds their slots free. -/
theorem dropped_verifications_run_on :
    ∃ world, PasswordWorld.new.run .default
        (startedCall 0 "client" ++ [.call 0 .drop] ++ startedCall 1 "client" ++ [.call 1 .drop] ++
          startedCall 2 "client") = some world ∧
      world.running = 3 ∧ argon2Concurrency < world.running :=
  ⟨_, rfl, by decide, by decide⟩

end Auth

end MusicServer
