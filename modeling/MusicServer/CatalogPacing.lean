/-
# Pacing of the catalog requests

`cleanup_musicbrainz_requests.rs`: calls of `fetch_response` share one admission, and a call holds
it from its look at the clock to its answer.  A call that is dropped in flight releases it without
writing when the next request may be sent.

* `step_cases`: what one step can do;
* `paced_run`: runs that drop no call in flight, and begin no lookup before a granted retry was
  sent, are paced and stay within the budget.
-/
import MusicServer.CatalogEvidence
import MusicServer.Transition

namespace MusicServer.Pacing

open Transition Transition.System

/-! ## One request -/

/-- Durations and instants are in nanoseconds. -/
def second : ℕ := 10 ^ 9

def maxDuration : ℕ := 2 ^ 64 * second - 1

structure MusicBrainzNameLookup where
  minimumInterval : ℕ
  latestInstant : ℕ
  parseHttpDate : String → Option ℕ

structure RequestAdmission where
  nextRequestAt : Option ℕ
  cooldownUntil : Option ℕ
  cooldownOverflow : Bool
  retriesRemaining : ℕ
  deriving DecidableEq

def RequestAdmission.default : RequestAdmission := ⟨none, none, false, 10⟩

/-- `for attempt in 0..2`. -/
inductive Attempt where
  | first | second
  deriving DecidableEq

/-- What `send` answers; the header `Retry-After` where it is text. -/
inductive Response where
  | answered (status : ℕ) (retryAfter : Option String)
  | failed (isTimeout isConnect : Bool)
  deriving DecidableEq

inductive FetchResult where
  | response (status : ℕ)
  | http
  | coolingDown
  deriving DecidableEq

/-- `str::parse` of an unsigned number of 64 bits. -/
def parseU64 (text : List Char) : Option ℕ :=
  let digits := match text with
    | '+' :: rest => rest
    | _ => text
  if digits = [] ∨ ¬ digits.all Char.isDigit then none
  else
    let value := digits.foldl (fun value c => value * 10 + (c.toNat - '0'.toNat)) 0
    if value < 2 ^ 64 then some value else none

def retryAfter (client : MusicBrainzNameLookup) (header : Option String) (now : ℕ) : Option ℕ :=
  header.bind fun value =>
    let value := Enrichment.trim value
    match parseU64 value.toList with
    | some seconds => some (seconds * second)
    | none => (client.parseHttpDate value).map (· - now)

def Response.transient : Response → Bool
  | .answered status _ => status ∈ [429, 502, 503, 504]
  | .failed isTimeout isConnect => isTimeout || isConnect

def Response.delay (client : MusicBrainzNameLookup) (wallClock : ℕ) (response : Response) : ℕ :=
  (match response with
    | .answered _ header => retryAfter client header wallClock
    | .failed _ _ => none).getD (min (client.minimumInterval * 2) maxDuration)

def Response.result : Response → FetchResult
  | .answered status _ => if 400 ≤ status ∧ status < 600 then .http else .response status
  | .failed _ _ => .http

/-- `next_request_at.into_iter().chain(cooldown_until).max()`. -/
def RequestAdmission.next (admission : RequestAdmission) : Option ℕ :=
  match admission.nextRequestAt, admission.cooldownUntil with
  | some request, some cooldown => some (max request cooldown)
  | some request, none => some request
  | none, cooldown => cooldown

def checkedAdd (client : MusicBrainzNameLookup) (now delay : ℕ) : Option ℕ :=
  if now + delay ≤ client.latestInstant then some (now + delay) else none

/-! ## Calls side by side -/

/-- A call that holds the admission, at the await point where it is. -/
inductive Held where
  | sleeping (call : ℕ) (attempt : Attempt) (next : ℕ)
  | sending (call : ℕ) (attempt : Attempt)
  deriving DecidableEq

inductive Observation where
  | sent (call : ℕ) (attempt : Attempt) (time : ℕ)
  | ended (time : ℕ)
  | cooled (deadline : Option ℕ)
  | began
  | returned (call : ℕ) (result : FetchResult)
  deriving DecidableEq

/-- The calls of a process, which have numbers; some await the admission. -/
structure Requests where
  now : ℕ
  admission : RequestAdmission
  held : Option Held
  waiting : List (ℕ × Attempt)
  calls : ℕ
  log : List Observation
  deriving DecidableEq

inductive Event where
  | elapse (now : ℕ)
  | call
  | lock (call : ℕ) (attempt : Attempt)
  | wake
  | respond (response : Response) (wallClock : ℕ)
  | dropWaiting (call : ℕ) (attempt : Attempt)
  | dropHolder
  | beginCatalogLookup

namespace Requests

def send (s : Requests) (call : ℕ) (attempt : Attempt) : Requests :=
  { s with held := some (.sending call attempt), log := .sent call attempt s.now :: s.log }

def acquire (s : Requests) (call : ℕ) (attempt : Attempt) : Requests :=
  let coolingDown := { s with log := .returned call .coolingDown :: s.log }
  if s.admission.cooldownOverflow then coolingDown
  else
    match s.admission.next with
    | none => s.send call attempt
    | some next =>
      if 30 * second < next - s.now then coolingDown
      else if s.now < next then { s with held := some (.sleeping call attempt next) }
      else s.send call attempt

/-- From the answer to the release of the admission. -/
def finish (client : MusicBrainzNameLookup) (s : Requests) (call : ℕ) (attempt : Attempt)
    (response : Response) (wallClock : ℕ) : Requests :=
  let delay := response.delay client wallClock
  let cooldown := checkedAdd client s.now delay
  let admission := { s.admission with nextRequestAt := some (s.now + client.minimumInterval) }
  let admission := if response.transient then
    { admission with cooldownUntil := cooldown, cooldownOverflow := cooldown.isNone } else admission
  let log := .ended s.now :: s.log
  let log := if response.transient then .cooled cooldown :: log else log
  if response.transient ∧ attempt = .first ∧ 0 < s.admission.retriesRemaining ∧
      delay ≤ 30 * second then
    { s with
      admission := { admission with retriesRemaining := s.admission.retriesRemaining - 1 }
      held := none
      waiting := (call, .second) :: s.waiting
      log := log }
  else { s with admission := admission, held := none, log := .returned call response.result :: log }

def step (client : MusicBrainzNameLookup) (s : Requests) : Event → Option Requests
  -- the clock stays where adding the interval to an instant does not panic
  | .elapse now =>
    if s.now ≤ now ∧ now + client.minimumInterval ≤ client.latestInstant then
      some { s with now := now }
    else none
  | .call => some { s with waiting := (s.calls, .first) :: s.waiting, calls := s.calls + 1 }
  | .lock call attempt =>
    if s.held = none ∧ (call, attempt) ∈ s.waiting then
      some (acquire { s with waiting := s.waiting.erase (call, attempt) } call attempt)
    else none
  | .wake =>
    match s.held with
    | some (.sleeping call attempt next) =>
      if next ≤ s.now then some (s.send call attempt) else none
    | _ => none
  | .respond response wallClock =>
    match s.held with
    | some (.sending call attempt) => some (s.finish client call attempt response wallClock)
    | _ => none
  | .dropWaiting call attempt =>
    if (call, attempt) ∈ s.waiting then
      some { s with waiting := s.waiting.erase (call, attempt) }
    else none
  | .dropHolder =>
    match s.held with
    | none => none
    | some (.sleeping _ _ _) => some { s with held := none }
    -- the request is abandoned, and the admission says nothing of it
    | some (.sending _ _) => some { s with held := none, log := .ended s.now :: s.log }
  | .beginCatalogLookup =>
    if s.held = none then
      some { s with
        admission := { s.admission with retriesRemaining := 10 }
        log := .began :: s.log }
    else none

end Requests

def requestSystem (client : MusicBrainzNameLookup) : System Requests Event where
  init s := ∃ now, now + client.minimumInterval ≤ client.latestInstant ∧
    s = ⟨now, .default, none, [], 0, []⟩
  step s event s' := s.step client event = some s'

/-! ## What is promised -/

def lastEnd (log : List Observation) : Option ℕ :=
  log.findSome? fun
    | .ended time => some time
    | _ => none

/-- The deadline of the latest cooldown; one without a deadline does not end. -/
def lastCooldown (log : List Observation) : Option (Option ℕ) :=
  log.findSome? fun
    | .cooled deadline => some deadline
    | _ => none

/-- Every request of a log, which starts with the latest event, is spaced from the one before. -/
def Spaced (interval : ℕ) : List Observation → Prop
  | [] => True
  | .sent _ _ time :: earlier =>
    (∀ ended ∈ lastEnd earlier, ended + interval ≤ time) ∧ Spaced interval earlier
  | _ :: earlier => Spaced interval earlier

/-- No request is sent before the cooldown is over. -/
def Cooled : List Observation → Prop
  | [] => True
  | .sent _ _ time :: earlier =>
    (∀ deadline ∈ lastCooldown earlier, ∃ free ∈ deadline, free ≤ time) ∧ Cooled earlier
  | _ :: earlier => Cooled earlier

def sentBy (call : ℕ) : Observation → Bool
  | .sent other _ _ => other = call
  | _ => false

def isRetry : Observation → Bool
  | .sent _ .second _ => true
  | _ => false

/-- The second attempts sent since a lookup began. -/
def retriesSince (log : List Observation) : ℕ :=
  (log.takeWhile (· ≠ .began)).countP isRetry

structure Paced (client : MusicBrainzNameLookup) (s : Requests) : Prop where
  spaced : Spaced client.minimumInterval s.log
  cooled : Cooled s.log
  sent : ∀ call, s.log.countP (sentBy call) ≤ 2
  retries : retriesSince s.log ≤ 10
  begin : ∀ s', s.step client .beginCatalogLookup = some s' →
    s'.admission.cooldownUntil = s.admission.cooldownUntil ∧
      s'.admission.cooldownOverflow = s.admission.cooldownOverflow

def Held.granted : Held → ℕ
  | .sleeping _ .second _ => 1
  | _ => 0

def Requests.granted (s : Requests) : ℕ :=
  s.waiting.countP (·.2 = .second) + s.held.elim 0 Held.granted

/-- No call is dropped in flight, and no lookup begins while a granted retry is unsent. -/
def Undisturbed (s : Requests) : Event → Prop
  | .dropHolder => ∀ call attempt, s.held ≠ some (.sending call attempt)
  | .beginCatalogLookup => s.granted = 0
  | _ => True

/-! ## What a step can do -/

/-- The steps of the system, each with what it writes. -/
inductive Moves (client : MusicBrainzNameLookup) (s : Requests) : Event → Requests → Prop
  | elapse {now : ℕ} : Moves client s (.elapse now) { s with now := now }
  | call : Moves client s .call
      { s with waiting := (s.calls, .first) :: s.waiting, calls := s.calls + 1 }
  | refused {call : ℕ} {attempt : Attempt} (hmem : (call, attempt) ∈ s.waiting) :
      Moves client s (.lock call attempt)
        { s with
          waiting := s.waiting.erase (call, attempt)
          log := .returned call .coolingDown :: s.log }
  | sleeping {call : ℕ} {attempt : Attempt} {next : ℕ} (hheld : s.held = none)
      (hmem : (call, attempt) ∈ s.waiting) (hover : s.admission.cooldownOverflow = false)
      (hnext : s.admission.next = some next) : Moves client s (.lock call attempt)
        { s with
          waiting := s.waiting.erase (call, attempt)
          held := some (.sleeping call attempt next) }
  | sent {call : ℕ} {attempt : Attempt} (hheld : s.held = none)
      (hmem : (call, attempt) ∈ s.waiting) (hover : s.admission.cooldownOverflow = false)
      (hnext : ∀ next ∈ s.admission.next, next ≤ s.now) : Moves client s (.lock call attempt)
        (Requests.send { s with waiting := s.waiting.erase (call, attempt) } call attempt)
  | woken {call : ℕ} {attempt : Attempt} {next : ℕ}
      (hheld : s.held = some (.sleeping call attempt next)) (hnext : next ≤ s.now) :
      Moves client s .wake (s.send call attempt)
  | retried {call : ℕ} {response : Response} {wallClock : ℕ} {cooldown : Option ℕ}
      (hheld : s.held = some (.sending call .first)) (hleft : 0 < s.admission.retriesRemaining) :
      Moves client s (.respond response wallClock)
        { s with
          admission := ⟨some (s.now + client.minimumInterval), cooldown, cooldown.isNone,
            s.admission.retriesRemaining - 1⟩
          held := none
          waiting := (call, .second) :: s.waiting
          log := .cooled cooldown :: .ended s.now :: s.log }
  | failed {call : ℕ} {attempt : Attempt} {response : Response} {wallClock : ℕ}
      {cooldown : Option ℕ} (hheld : s.held = some (.sending call attempt)) :
      Moves client s (.respond response wallClock)
        { s with
          admission := ⟨some (s.now + client.minimumInterval), cooldown, cooldown.isNone,
            s.admission.retriesRemaining⟩
          held := none
          log := .returned call response.result :: .cooled cooldown :: .ended s.now :: s.log }
  | answered {call : ℕ} {attempt : Attempt} {response : Response} {wallClock : ℕ}
      (hheld : s.held = some (.sending call attempt)) :
      Moves client s (.respond response wallClock)
        { s with
          admission := { s.admission with nextRequestAt := some (s.now + client.minimumInterval) }
          held := none
          log := .returned call response.result :: .ended s.now :: s.log }
  | dropWaiting {call : ℕ} {attempt : Attempt} (hmem : (call, attempt) ∈ s.waiting) :
      Moves client s (.dropWaiting call attempt)
        { s with waiting := s.waiting.erase (call, attempt) }
  | dropSleeping {call : ℕ} {attempt : Attempt} {next : ℕ}
      (hheld : s.held = some (.sleeping call attempt next)) :
      Moves client s .dropHolder { s with held := none }
  | dropSending {call : ℕ} {attempt : Attempt} (hheld : s.held = some (.sending call attempt)) :
      Moves client s .dropHolder { s with held := none, log := .ended s.now :: s.log }
  | began (hheld : s.held = none) : Moves client s .beginCatalogLookup
      { s with
        admission := { s.admission with retriesRemaining := 10 }
        log := .began :: s.log }

variable {client : MusicBrainzNameLookup} {s s' : Requests} {event : Event}

theorem acquire_cases {call : ℕ} {attempt : Attempt} (hheld : s.held = none)
    (hmem : (call, attempt) ∈ s.waiting) : Moves client s (.lock call attempt)
      (Requests.acquire { s with waiting := s.waiting.erase (call, attempt) } call attempt) := by
  unfold Requests.acquire
  dsimp only
  split
  · exact .refused hmem
  · next hover =>
    rw [Bool.not_eq_true] at hover
    split
    · next hnone => exact .sent hheld hmem hover fun next hnext => by rw [hnone] at hnext; cases hnext
    · next next hnext =>
      split
      · exact .refused hmem
      · split
        · exact .sleeping hheld hmem hover hnext
        · next hpast =>
          refine .sent hheld hmem hover fun other hother => ?_
          rw [hnext] at hother
          cases hother
          omega

theorem finish_cases {call : ℕ} {attempt : Attempt} {response : Response} {wallClock : ℕ}
    (hheld : s.held = some (.sending call attempt)) : Moves client s (.respond response wallClock)
      (s.finish client call attempt response wallClock) := by
  unfold Requests.finish
  dsimp only
  split
  · next hretry =>
    obtain ⟨htransient, rfl, hleft, -⟩ := hretry
    rw [if_pos htransient, if_pos htransient]
    exact .retried hheld hleft
  · by_cases htransient : response.transient = true
    · rw [if_pos htransient, if_pos htransient]
      exact .failed hheld
    · rw [if_neg htransient, if_neg htransient]
      exact .answered hheld

theorem step_cases (h : s.step client event = some s') : Moves client s event s' := by
  unfold Requests.step at h
  split at h
  · split at h
    · cases h
      exact .elapse
    · cases h
  · cases h
    exact .call
  · split at h
    · next hlock =>
      cases h
      exact acquire_cases hlock.1 hlock.2
    · cases h
  · split at h
    · next hheld =>
      split at h
      · next hnext =>
        cases h
        exact .woken hheld hnext
      · cases h
    · cases h
  · split at h
    · next hheld =>
      cases h
      exact finish_cases hheld
    · cases h
  · split at h
    · next hmem =>
      cases h
      exact .dropWaiting hmem
    · cases h
  · split at h
    · cases h
    · next hheld =>
      cases h
      exact .dropSleeping hheld
    · next hheld =>
      cases h
      exact .dropSending hheld
  · split at h
    · next hheld =>
      cases h
      exact .began hheld
    · cases h

/-! ## Cooldowns -/

/-- The admission has the cooldown of the log, and who sleeps has looked at it. -/
structure Steady (s : Requests) : Prop where
  sleeping : ∀ call attempt next, s.held = some (.sleeping call attempt next) →
    s.admission.next = some next ∧ s.admission.cooldownOverflow = false
  deadline : s.admission.cooldownUntil = (lastCooldown s.log).join
  overflow : s.admission.cooldownOverflow = true ↔ lastCooldown s.log = some none
  cooled : Cooled s.log

theorem RequestAdmission.le_of_next {admission : RequestAdmission} {now : ℕ}
    (h : ∀ next ∈ admission.next, next ≤ now) :
    (∀ time ∈ admission.nextRequestAt, time ≤ now) ∧
      ∀ time ∈ admission.cooldownUntil, time ≤ now := by
  unfold RequestAdmission.next at h
  cases hrequest : admission.nextRequestAt <;> cases hcooldown : admission.cooldownUntil <;>
    simp [hrequest, hcooldown] at h ⊢ <;> omega

theorem Steady.clear (h : Steady s) (hover : s.admission.cooldownOverflow = false)
    (hnext : ∀ next ∈ s.admission.next, next ≤ s.now) :
    ∀ deadline ∈ lastCooldown s.log, ∃ free ∈ deadline, free ≤ s.now := by
  intro deadline hdeadline
  rw [Option.mem_def] at hdeadline
  cases deadline with
  | none =>
    have htrue := h.overflow.mpr hdeadline
    rw [hover] at htrue
    cases htrue
  | some free =>
    have huntil := h.deadline
    rw [hdeadline] at huntil
    exact ⟨free, rfl, (RequestAdmission.le_of_next hnext).2 free huntil⟩

theorem Steady.step (h : Steady s) (hmove : Moves client s event s') : Steady s' := by
  have hasleep : ∀ {call : ℕ} {attempt : Attempt} {next : ℕ},
      s.held = some (.sleeping call attempt next) → next ≤ s.now →
        ∀ deadline ∈ lastCooldown s.log, ∃ free ∈ deadline, free ≤ s.now := by
    intro call attempt next hheld hle
    obtain ⟨hnext, hover⟩ := h.sleeping _ _ _ hheld
    refine h.clear hover fun other hother => ?_
    rw [hnext] at hother
    cases hother
    exact hle
  have hnone : ∀ cooldown : Option ℕ, cooldown.isNone = true ↔ some cooldown = some none := by
    intro cooldown
    rw [Option.isNone_iff_eq_none, Option.some_inj]
  cases hmove with
  | elapse | call | refused | dropWaiting | began =>
    exact ⟨h.sleeping, h.deadline, h.overflow, h.cooled⟩
  | sleeping hheld hmem hover hnext =>
    refine ⟨fun _ _ _ heq => ?_, h.deadline, h.overflow, h.cooled⟩
    cases heq
    exact ⟨hnext, hover⟩
  | sent hheld hmem hover hnext =>
    exact ⟨fun _ _ _ heq => (by cases heq), h.deadline, h.overflow, h.clear hover hnext, h.cooled⟩
  | woken hheld hnext =>
    exact ⟨fun _ _ _ heq => (by cases heq), h.deadline, h.overflow, hasleep hheld hnext, h.cooled⟩
  | retried | failed => exact ⟨fun _ _ _ heq => (by cases heq), rfl, hnone _, h.cooled⟩
  | answered | dropSleeping | dropSending =>
    exact ⟨fun _ _ _ heq => (by cases heq), h.deadline, h.overflow, h.cooled⟩

/-! ## Spacing -/

/-- The admission knows when the last request ended. -/
structure Recorded (client : MusicBrainzNameLookup) (s : Requests) : Prop where
  spaced : Spaced client.minimumInterval s.log
  next : ∀ ended ∈ lastEnd s.log, ∃ next ∈ s.admission.nextRequestAt,
    ended + client.minimumInterval ≤ next

theorem Recorded.clear (h : Recorded client s) (hnext : ∀ next ∈ s.admission.next, next ≤ s.now) :
    ∀ ended ∈ lastEnd s.log, ended + client.minimumInterval ≤ s.now := by
  intro ended hended
  obtain ⟨next, hmem, hle⟩ := h.next ended hended
  exact hle.trans ((RequestAdmission.le_of_next hnext).1 next hmem)

theorem Recorded.step (h : Recorded client s) (hsteady : Steady s)
    (hundisturbed : Undisturbed s event) (hmove : Moves client s event s') :
    Recorded client s' := by
  have hanswer : ∀ ended ∈ some s.now, ∃ next ∈ some (s.now + client.minimumInterval),
      ended + client.minimumInterval ≤ next := by
    intro ended hended
    cases hended
    exact ⟨_, rfl, le_refl _⟩
  cases hmove with
  | elapse | call | refused | sleeping | dropWaiting | dropSleeping | began =>
    exact ⟨h.spaced, h.next⟩
  | sent hheld hmem hover hnext => exact ⟨⟨h.clear hnext, h.spaced⟩, h.next⟩
  | woken hheld hnext =>
    refine ⟨⟨h.clear fun other hother => ?_, h.spaced⟩, h.next⟩
    rw [(hsteady.sleeping _ _ _ hheld).1] at hother
    cases hother
    exact hnext
  | retried | failed | answered => exact ⟨h.spaced, hanswer⟩
  | dropSending hheld => exact absurd hheld (hundisturbed _ _)

/-! ## Budgets -/

def Attempt.left : Attempt → ℕ
  | .first => 2
  | .second => 1

@[simp] theorem Attempt.left_first : Attempt.left .first = 2 := rfl

@[simp] theorem Attempt.left_second : Attempt.left .second = 1 := rfl

def Held.left (call : ℕ) : Held → ℕ
  | .sleeping other attempt _ => if other = call then attempt.left else 0
  | .sending other attempt => if other = call then attempt.left - 1 else 0

def unmade (calls call : ℕ) : ℕ := if call < calls then 0 else 2

/-- How many requests a call may still send. -/
def Requests.left (s : Requests) (call : ℕ) : ℕ :=
  unmade s.calls call +
    (s.waiting.map fun entry => if entry.1 = call then entry.2.left else 0).sum +
      s.held.elim 0 (Held.left call)

theorem Requests.sum_waiting {call : ℕ} {attempt : Attempt} (hmem : (call, attempt) ∈ s.waiting)
    (f : ℕ × Attempt → ℕ) :
    (s.waiting.map f).sum = f (call, attempt) + ((s.waiting.erase (call, attempt)).map f).sum := by
  rw [((List.perm_cons_erase hmem).map f).sum_eq, List.map_cons, List.sum_cons]

theorem sent_step (h : ∀ call, s.log.countP (sentBy call) + s.left call ≤ 2)
    (hmove : Moves client s event s') (call : ℕ) :
    s'.log.countP (sentBy call) + s'.left call ≤ 2 := by
  have hcall := h call
  unfold Requests.left at hcall ⊢
  cases hmove with
  | elapse => exact hcall
  | call =>
    simp only [unmade, List.map_cons, List.sum_cons, Attempt.left_first] at hcall ⊢
    split at hcall <;> split <;> split <;> omega
  | refused hmem | dropWaiting hmem =>
    rw [Requests.sum_waiting hmem] at hcall
    simp only [List.countP_cons, sentBy, Bool.false_eq_true, if_false]
    omega
  | sleeping hheld hmem =>
    rw [Requests.sum_waiting hmem, hheld] at hcall
    simp only [Option.elim_none, Option.elim_some, Held.left] at hcall ⊢
    omega
  | @sent other attempt hheld hmem =>
    rw [Requests.sum_waiting hmem, hheld] at hcall
    rcases eq_or_ne other call with rfl | hne
    · cases attempt <;> simp [Requests.send, sentBy, Held.left] at hcall ⊢ <;> omega
    · simp [Requests.send, sentBy, Held.left, hne] at hcall ⊢
      omega
  | @woken other attempt next hheld =>
    rw [hheld] at hcall
    rcases eq_or_ne other call with rfl | hne
    · cases attempt <;> simp [Requests.send, sentBy, Held.left] at hcall ⊢ <;> omega
    · simp [Requests.send, sentBy, Held.left, hne] at hcall ⊢
      omega
  | @retried other _ _ _ hheld =>
    rw [hheld] at hcall
    rcases eq_or_ne other call with rfl | hne
    · simp [sentBy, Held.left] at hcall ⊢
      omega
    · simp [sentBy, Held.left, hne] at hcall ⊢
      omega
  | failed | answered | dropSleeping | dropSending | began =>
    simp only [List.countP_cons, sentBy, Bool.false_eq_true, if_false, Option.elim_none]
    omega

@[simp] theorem retriesSince_began (log : List Observation) : retriesSince (.began :: log) = 0 := rfl

theorem retriesSince_cons {observation : Observation} (h : observation ≠ .began)
    (log : List Observation) : retriesSince (observation :: log) =
      retriesSince log + if isRetry observation then 1 else 0 := by
  unfold retriesSince
  rw [List.takeWhile_cons_of_pos (by simpa using h), List.countP_cons]

theorem Requests.granted_waiting {call : ℕ} {attempt : Attempt}
    (hmem : (call, attempt) ∈ s.waiting) : s.waiting.countP (·.2 = .second) =
      (s.waiting.erase (call, attempt)).countP (·.2 = .second) +
        if attempt = .second then 1 else 0 := by
  rw [(List.perm_cons_erase hmem).countP_eq, List.countP_cons]
  simp

theorem retries_step (h : retriesSince s.log + s.granted + s.admission.retriesRemaining ≤ 10)
    (hundisturbed : Undisturbed s event) (hmove : Moves client s event s') :
    retriesSince s'.log + s'.granted + s'.admission.retriesRemaining ≤ 10 := by
  unfold Requests.granted at h ⊢
  cases hmove with
  | elapse => exact h
  | call => simpa using h
  | refused hmem | dropWaiting hmem =>
    rw [Requests.granted_waiting hmem] at h
    simp only [retriesSince_cons, ne_eq, reduceCtorEq, not_false_eq_true, isRetry,
      Bool.false_eq_true, if_false]
    omega
  | @sleeping other attempt next hheld hmem =>
    rw [Requests.granted_waiting hmem, hheld] at h
    cases attempt <;> simp [Held.granted] at h ⊢ <;> omega
  | @sent other attempt hheld hmem =>
    rw [Requests.granted_waiting hmem, hheld] at h
    cases attempt <;> simp [Requests.send, retriesSince_cons, isRetry, Held.granted] at h ⊢ <;> omega
  | @woken other attempt next hheld =>
    rw [hheld] at h
    cases attempt <;> simp [Requests.send, retriesSince_cons, isRetry, Held.granted] at h ⊢ <;> omega
  | retried hheld hleft =>
    rw [hheld] at h
    simp [retriesSince_cons, isRetry, Held.granted] at h ⊢
    omega
  | failed hheld | answered hheld | dropSending hheld =>
    rw [hheld] at h
    simpa [retriesSince_cons, isRetry, Held.granted] using h
  | dropSleeping hheld =>
    simp only [Option.elim_none]
    omega
  | began hheld =>
    have hgranted : s.granted = 0 := hundisturbed
    unfold Requests.granted at hgranted
    simp [hgranted]

/-! ## Runs -/

structure Sound (client : MusicBrainzNameLookup) (s : Requests) : Prop where
  steady : Steady s
  recorded : Recorded client s
  sent : ∀ call, s.log.countP (sentBy call) + s.left call ≤ 2
  retries : retriesSince s.log + s.granted + s.admission.retriesRemaining ≤ 10

theorem Sound.init (h : (requestSystem client).init s) : Sound client s := by
  obtain ⟨now, -, rfl⟩ := h
  refine ⟨⟨fun _ _ _ heq => (by cases heq), rfl, ?_, trivial⟩, ⟨trivial, ?_⟩, ?_, le_refl _⟩
  · exact iff_of_false Bool.false_ne_true (by simp [lastCooldown])
  · intro ended hended
    cases hended
  · intro call
    exact Nat.le_refl 2

theorem Sound.step (h : Sound client s) (hstep : (requestSystem client).step s event s')
    (hundisturbed : Undisturbed s event) : Sound client s' :=
  have hmove := step_cases hstep
  ⟨h.steady.step hmove, h.recorded.step h.steady hundisturbed hmove, sent_step h.sent hmove,
    retries_step h.retries hundisturbed hmove⟩

theorem Sound.paced (h : Sound client s) : Paced client s where
  spaced := h.recorded.spaced
  cooled := h.steady.cooled
  sent call := by
    have := h.sent call
    omega
  retries := by
    have := h.retries
    omega
  begin s' hs' := by
    cases step_cases hs'
    exact ⟨rfl, rfl⟩

/-- Every run that is not disturbed is paced and within its budgets. -/
theorem paced_run {run : List (Event × Requests)} (hinit : (requestSystem client).init s)
    (hrun : (requestSystem client).IsRun s run)
    (hundisturbed : ∀ t ∈ steps s run, Undisturbed t.1 t.2.1) :
    ∀ q ∈ states s run, Paced client q := by
  intro q hq
  have hsound : Sound client q :=
    hrun.forall_states (fun _ _ _ h hstep hguard => h.step hstep hguard) (.init hinit)
      hundisturbed q hq
  exact hsound.paced

def musicBrainz : MusicBrainzNameLookup := ⟨1100 * 10 ^ 6, 2 ^ 63 * second, fun _ => none⟩

def freshRequests : Requests := ⟨0, .default, none, [], 0, []⟩

theorem freshRequests_init : (requestSystem musicBrainz).init freshRequests :=
  ⟨0, by decide, rfl⟩

theorem isRun_events (events : List Event) : (requestSystem musicBrainz).IsRun freshRequests
    (replay (Requests.step musicBrainz) freshRequests events) :=
  isRun_replay (fun _ _ _ h => h) freshRequests events

/-- An answer that asks for a retry, which waits, and is answered. -/
def recovered : List Event :=
  [.call, .lock 0 .first, .elapse (10 ^ 9), .respond (.answered 503 none) 0, .lock 0 .second,
    .elapse (4 * 10 ^ 9), .wake, .respond (.answered 200 none) 0]

theorem paced_run_recovered :
    (replay (Requests.step musicBrainz) freshRequests recovered).length = 8 ∧
    ∀ q ∈ states freshRequests (replay (Requests.step musicBrainz) freshRequests recovered),
      Paced musicBrainz q := by
  refine ⟨by decide +kernel, paced_run freshRequests_init (isRun_events recovered) fun t ht => ?_⟩
  have hlabel := label_mem_of_replay t ht
  generalize t.2.1 = event at hlabel
  fin_cases hlabel <;> trivial

/-- The first request is dropped in flight, and the second is sent at once. -/
def droppedInFlight : List Event :=
  [.call, .lock 0 .first, .elapse (10 ^ 9), .dropHolder, .call, .lock 1 .first]

/-- Also where calls are dropped, no request goes out before the cooldown of the last answer is
over, and a call makes at most two requests. -/
theorem cooldowns_kept {run : List (Event × Requests)} (hinit : (requestSystem client).init s)
    (hrun : (requestSystem client).IsRun s run) : ∀ q ∈ states s run,
      Cooled q.log ∧ ∀ call, q.log.countP (sentBy call) ≤ 2 := by
  have hkept : ∀ q ∈ states s run,
      Steady q ∧ ∀ call, q.log.countP (sentBy call) + q.left call ≤ 2 := by
    refine hrun.forall_states (G := fun _ _ => True) ?_ ?_ fun _ _ => trivial
    · rintro _ _ _ ⟨hsteady, hsent⟩ hstep -
      have hmove := step_cases hstep
      exact ⟨hsteady.step hmove, sent_step hsent hmove⟩
    · have hsound := Sound.init hinit
      exact ⟨hsound.steady, hsound.sent⟩
  intro q hq
  obtain ⟨hsteady, hsent⟩ := hkept q hq
  exact ⟨hsteady.cooled, fun call => (Nat.le_add_right _ _).trans (hsent call)⟩

/-- An answer names a cooldown, its call is dropped, and two others wait for its end; the request
of the first of them is dropped in flight. -/
def droppedAfterRetry : List Event :=
  [.call, .lock 0 .first, .elapse (10 ^ 9), .respond (.answered 503 (some "5")) 0,
    .dropWaiting 0 .second, .call, .lock 1 .first, .elapse (6 * 10 ^ 9), .wake, .dropHolder,
    .call, .lock 2 .first]

theorem cooldowns_kept_dropped :
    (replay (Requests.step musicBrainz) freshRequests droppedAfterRetry).length = 12 ∧
    .cooled (some (6 * 10 ^ 9)) ∈ (finish freshRequests
      (replay (Requests.step musicBrainz) freshRequests droppedAfterRetry)).log ∧
    ∀ q ∈ states freshRequests (replay (Requests.step musicBrainz) freshRequests droppedAfterRetry),
      Cooled q.log ∧ ∀ call, q.log.countP (sentBy call) ≤ 2 :=
  ⟨by decide +kernel, by decide +kernel,
    cooldowns_kept freshRequests_init (isRun_events droppedAfterRetry)⟩

theorem dropped_not_paced : ¬ ∀ (client : MusicBrainzNameLookup) (s : Requests)
    (run : List (Event × Requests)), (requestSystem client).init s →
      (requestSystem client).IsRun s run → ∀ q ∈ states s run, Paced client q := by
  intro h
  have hspaced := (h _ _ _ freshRequests_init (isRun_events droppedInFlight) _
    (finish_mem_states _ _)).spaced
  have hlog : (finish freshRequests (replay (Requests.step musicBrainz) freshRequests
      droppedInFlight)).log =
        [.sent 1 .first (10 ^ 9), .ended (10 ^ 9), .sent 0 .first 0] := by decide +kernel
  rw [hlog] at hspaced
  have := hspaced.1 (10 ^ 9) rfl
  revert this
  decide

end MusicServer.Pacing
