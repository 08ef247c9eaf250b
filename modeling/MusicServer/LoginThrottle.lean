/-
# The throttle of the password calls

`LoginThrottle` keeps the recent failures of each client, and a call is let through where its client
and all clients together are under their limits.
-/
import Mathlib.Data.List.Dedup
import Mathlib.Tactic

namespace MusicServer

namespace Auth

/-! ## The throttle -/

structure LoginThrottleConfig where
  window : ℕ
  perKeyFailures : ℕ
  globalFailures : ℕ
  maximumKeys : ℕ

def LoginThrottleConfig.default : LoginThrottleConfig where
  window := 60 * 1000000000
  perKeyFailures := 10
  globalFailures := 50
  maximumKeys := 1024

structure FailedAttempt where
  key : String
  instant : ℕ
  deriving DecidableEq

/-- The map keeps no empty list, so its keys are those of the attempts. -/
abbrev Failures := List FailedAttempt

def retainRecent (failures : Failures) (now window : ℕ) : Failures :=
  failures.filter fun attempt => now - attempt.instant < window

def Failures.perKey (failures : Failures) (key : String) : ℕ :=
  failures.countP fun attempt => attempt.key = key

def Failures.keys (failures : Failures) : List String := (failures.map FailedAttempt.key).dedup

namespace LoginThrottleConfig

variable (config : LoginThrottleConfig)

/-- The limits on the failures that are kept. -/
def overLimit (failures : Failures) (key : String) : Bool :=
  config.perKeyFailures ≤ failures.perKey key || config.globalFailures ≤ failures.length

def blockedAt (failures : Failures) (key : String) (now : ℕ) : Bool × Failures :=
  let failures := retainRecent failures now config.window
  (config.overLimit failures key, failures)

def recordFailureAt (failures : Failures) (key : String) (now : ℕ) : Failures :=
  let failures := retainRecent failures now config.window
  if key ∉ failures.keys ∧ config.maximumKeys ≤ failures.keys.length then failures
  else failures ++ [⟨key, now⟩]

end LoginThrottleConfig

def recordSuccess (failures : Failures) (key : String) : Failures :=
  failures.filter fun attempt => attempt.key ≠ key

/-! ## The failures of a scope -/

abbrev Scope := Option String

def Scope.covers : Scope → String → Bool
  | none, _ => true
  | some key, other => other = key

def LoginThrottleConfig.limit (config : LoginThrottleConfig) : Scope → ℕ
  | none => config.globalFailures
  | some _ => config.perKeyFailures

/-- The failures of a scope from an instant on. -/
def Failures.since (failures : Failures) (scope : Scope) (start : ℕ) : ℕ :=
  failures.countP fun attempt => scope.covers attempt.key && start ≤ attempt.instant

theorem Failures.keys_length_le (failures : Failures) : failures.keys.length ≤ failures.length := by
  have hsublist := (List.dedup_sublist (failures.map FailedAttempt.key)).length_le
  rwa [List.length_map] at hsublist

theorem length_retainRecent_le (failures : Failures) (now window : ℕ) :
    (retainRecent failures now window).length ≤ failures.length :=
  List.length_filter_le _ _

theorem since_retainRecent (failures : Failures) (scope : Scope) {start now window : ℕ}
    (hwindow : 0 < window) (hnow : now < start + window) :
    (retainRecent failures now window).since scope start = failures.since scope start := by
  unfold Failures.since retainRecent
  rw [List.countP_filter]
  refine List.countP_congr fun attempt _ => ?_
  simp only [Bool.and_eq_true, decide_eq_true_eq]
  constructor
  · exact fun h => h.1
  · intro h
    exact ⟨h, by omega⟩

theorem since_lt_limit {config : LoginThrottleConfig} {failures : Failures} {key : String}
    (hunder : config.overLimit failures key = false) {scope : Scope} (hscope : scope.covers key)
    (start : ℕ) : failures.since scope start < config.limit scope := by
  simp only [LoginThrottleConfig.overLimit, Bool.or_eq_false_iff, decide_eq_false_iff_not,
    not_le] at hunder
  cases scope with
  | none => exact List.countP_le_length.trans_lt hunder.2
  | some other =>
    have hsame : key = other := of_decide_eq_true hscope
    subst hsame
    refine lt_of_le_of_lt ?_ hunder.1
    refine List.countP_mono_left fun attempt _ h => ?_
    simp only [Bool.and_eq_true] at h
    exact h.1

section Recording

variable {config : LoginThrottleConfig} {failures : Failures}

theorem length_recordFailureAt_le (key : String) (now : ℕ) :
    (config.recordFailureAt failures key now).length ≤ failures.length + 1 := by
  have hretained := length_retainRecent_le failures now config.window
  unfold LoginThrottleConfig.recordFailureAt
  dsimp only
  split
  · omega
  · rw [List.length_append, List.length_singleton]
    omega

theorem since_recordFailureAt (hwindow : 0 < config.window)
    (hroom : failures.length < config.maximumKeys) (key : String) {now start : ℕ}
    (hnow : now < start + config.window) (scope : Scope) :
    (config.recordFailureAt failures key now).since scope start =
      failures.since scope start + if scope.covers key ∧ start ≤ now then 1 else 0 := by
  have hkeys := (Failures.keys_length_le (retainRecent failures now config.window)).trans
    (length_retainRecent_le failures now config.window)
  unfold LoginThrottleConfig.recordFailureAt
  dsimp only
  rw [if_neg (by omega)]
  have hretained := since_retainRecent failures scope hwindow hnow
  unfold Failures.since at hretained ⊢
  rw [List.countP_append, hretained, List.countP_singleton]
  simp only [Bool.and_eq_true, decide_eq_true_eq]

end Recording

end Auth

end MusicServer
