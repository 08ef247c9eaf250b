/-
# A reset and the leases of the jobs

A reset and a job come to wait for each other exactly where the job asks for a further lease
behind the reset (`Nests`); where no work that nests its leases is started, they never do.
-/
import MusicServer.CredentialLeases

namespace MusicServer.Credentials

open FairRwLock Transition

/-! ## Work that nests its leases -/

def Flat : Bool → List LeaseStep → Bool
  | _, [] => true
  | kept, .take :: script => !kept && Flat true script
  | _, .drop :: script => Flat false script
  | kept, .lock :: script | kept, .unlock :: script => Flat kept script

/-- The work takes a lease while it keeps one. -/
def Work.nests (work : Work) : Bool := !Flat false work.script

namespace LeaseState

variable {s s' : LeaseState} {label : LeaseLabel}

/-! ## What a step does -/

theorem turn_eq_some {number : ℕ} {step : LeaseStep} {change : Holder → Lock Holder}
    (h : s.turn number step change = some s') :
    ∃ work script, s.tasks[number]? = some ⟨work, step :: script⟩ ∧
      ¬ s.waiting ⟨number, work⟩ ∧
      s' = s.advance number work script (change ⟨number, work⟩) := by
  unfold turn at h
  split at h
  · next work next script htask =>
    obtain ⟨⟨rfl, hidle⟩, hs'⟩ := Option.ite_none_right_eq_some.mp h
    exact ⟨work, script, htask, hidle, (Option.some.inj hs').symm⟩
  · cases h

theorem exec_cases (h : s.exec label = some s') :
    (∃ work, label = .started work ∧ s' = ⟨s.lock, s.tasks ++ [⟨work, work.script⟩]⟩) ∨
    (∃ number work script, s.tasks[number]? = some ⟨work, .take :: script⟩ ∧
      ¬ s.waiting ⟨number, work⟩ ∧ label = .asked number ∧
      s' = s.advance number work script (s.lock.acquire ⟨number, work⟩ .read)) ∨
    (∃ number work script, s.tasks[number]? = some ⟨work, .lock :: script⟩ ∧
      ¬ s.waiting ⟨number, work⟩ ∧ label = .asked number ∧
      s' = s.advance number work script (s.lock.acquire ⟨number, work⟩ .write)) ∨
    (∃ number work script, s.tasks[number]? = some ⟨work, .drop :: script⟩ ∧
      ¬ s.waiting ⟨number, work⟩ ∧ label = .dropped number ∧
      s' = s.advance number work script (s.lock.releaseRead ⟨number, work⟩)) ∨
    (∃ number work script, s.tasks[number]? = some ⟨work, .unlock :: script⟩ ∧
      ¬ s.waiting ⟨number, work⟩ ∧ label = .unlocked number ∧
      s' = s.advance number work script s.lock.releaseWrite) ∨
    (∃ number task, s.tasks[number]? = some task ∧ label = .ended number ∧
      s' = s.advance number task.work [] (s.lock.abandon ⟨number, task.work⟩)) := by
  cases label with
  | started work => exact .inl ⟨work, rfl, (Option.some.inj h).symm⟩
  | asked number =>
    rcases Option.or_eq_some_iff.mp h with h | ⟨-, h⟩
    · obtain ⟨work, script, htask, hidle, hs'⟩ := turn_eq_some h
      exact .inr (.inl ⟨number, work, script, htask, hidle, rfl, hs'⟩)
    · obtain ⟨work, script, htask, hidle, hs'⟩ := turn_eq_some h
      exact .inr (.inr (.inl ⟨number, work, script, htask, hidle, rfl, hs'⟩))
  | dropped number =>
    obtain ⟨work, script, htask, hidle, hs'⟩ := turn_eq_some h
    exact .inr (.inr (.inr (.inl ⟨number, work, script, htask, hidle, rfl, hs'⟩)))
  | unlocked number =>
    have h : s.turn number .unlock (fun _ => s.lock.releaseWrite) = some s' := h
    obtain ⟨work, script, htask, hidle, hs'⟩ := turn_eq_some h
    exact .inr (.inr (.inr (.inr (.inl ⟨number, work, script, htask, hidle, rfl, hs'⟩))))
  | ended number =>
    simp only [exec] at h
    split at h
    · next task htask =>
      exact .inr (.inr (.inr (.inr (.inr
        ⟨number, task, htask, rfl, (Option.some.inj h).symm⟩))))
    · cases h

/-! ## Deadlocks -/

/-- The next step of a task's script asks so that a reset and a holder wait for each other. -/
def Nests (s : LeaseState) : LeaseLabel → Prop
  | .asked number => ∃ work script mode,
    (s.tasks[number]? = some ⟨work, .take :: script⟩ ∧ mode = .read ∨
      s.tasks[number]? = some ⟨work, .lock :: script⟩ ∧ mode = .write) ∧
    Lock.Nests (fun holder => holder.work = .resetStorage) s.lock ⟨number, work⟩ mode
  | _ => False

/-- The lock is settled, and each task waits for one guard at most. -/
structure Orderly (s : LeaseState) : Prop where
  settled : s.lock.Settled
  waitsOnce : s.lock.WaitsOnce

theorem waiting_iff (s : LeaseState) (holder : Holder) :
    s.waiting holder ↔ holder ∈ s.lock.queue.map Prod.fst := by
  unfold waiting
  simp

theorem Orderly.exec (h : s.Orderly) (hstep : s.exec label = some s') : s'.Orderly := by
  rcases exec_cases hstep with ⟨work, -, rfl⟩ | ⟨number, work, script, -, hidle, -, rfl⟩ |
    ⟨number, work, script, -, hidle, -, rfl⟩ | ⟨number, work, script, -, -, -, rfl⟩ |
    ⟨number, work, script, -, -, -, rfl⟩ | ⟨number, task, -, -, rfl⟩
  · exact ⟨h.settled, h.waitsOnce⟩
  · exact ⟨Lock.settled_acquire _ _ _,
      Lock.waitsOnce_acquire h.waitsOnce (fun hmem => hidle ((s.waiting_iff _).mpr hmem)) _⟩
  · exact ⟨Lock.settled_acquire _ _ _,
      Lock.waitsOnce_acquire h.waitsOnce (fun hmem => hidle ((s.waiting_iff _).mpr hmem)) _⟩
  · exact ⟨Lock.settled_releaseRead _ _, Lock.waitsOnce_releaseRead h.waitsOnce _⟩
  · exact ⟨Lock.settled_releaseWrite _, Lock.waitsOnce_releaseWrite h.waitsOnce⟩
  · exact ⟨Lock.settled_abandon _ _, Lock.waitsOnce_abandon h.waitsOnce _⟩

theorem deadlocked_exec_iff (h : s.Orderly) (hnot : ¬ s.Deadlocked)
    (hstep : s.exec label = some s') : s'.Deadlocked ↔ s.Nests label := by
  rcases exec_cases hstep with ⟨work, rfl, rfl⟩ | ⟨number, work, script, htask, -, rfl, rfl⟩ |
    ⟨number, work, script, htask, -, rfl, rfl⟩ | ⟨number, work, script, -, -, rfl, rfl⟩ |
    ⟨number, work, script, -, -, rfl, rfl⟩ | ⟨number, task, -, rfl, rfl⟩
  · exact ⟨fun hdead => absurd hdead hnot, False.elim⟩
  · refine (Lock.nested_acquire_iff h.settled hnot _ _).trans ⟨fun hnests => ?_, fun hnests => ?_⟩
    · exact ⟨work, script, .read, .inl ⟨htask, rfl⟩, hnests⟩
    · obtain ⟨work', script', mode, ⟨htask', rfl⟩ | ⟨htask', -⟩, hnests⟩ := hnests
      · rw [htask] at htask'
        cases htask'
        exact hnests
      · rw [htask] at htask'
        cases htask'
  · refine (Lock.nested_acquire_iff h.settled hnot _ _).trans ⟨fun hnests => ?_, fun hnests => ?_⟩
    · exact ⟨work, script, .write, .inr ⟨htask, rfl⟩, hnests⟩
    · obtain ⟨work', script', mode, ⟨htask', -⟩ | ⟨htask', rfl⟩, hnests⟩ := hnests
      · rw [htask] at htask'
        cases htask'
      · rw [htask] at htask'
        cases htask'
        exact hnests
  · exact ⟨fun hdead => absurd (Lock.Nested.of_releaseRead h.waitsOnce hdead) hnot, False.elim⟩
  · exact ⟨fun hdead => absurd (Lock.Nested.of_releaseWrite h.waitsOnce hdead) hnot, False.elim⟩
  · exact ⟨fun hdead => absurd (Lock.Nested.of_abandon h.waitsOnce hdead) hnot, False.elim⟩

/-! ## Runs of flat work -/

/-- No task has or waits for more leases than its script leaves room for. -/
structure Level (s : LeaseState) : Prop where
  room : ∀ holder script, s.tasks[holder.number]? = some ⟨holder.work, script⟩ →
    ∃ kept, Flat kept script ∧ s.lock.guards holder ≤ kept.toNat
  idle : ∀ holder, (∀ script, s.tasks[holder.number]? ≠ some ⟨holder.work, script⟩) →
    s.lock.guards holder = 0

theorem Level.advance (h : s.Level) {number : ℕ} {work : Work} {before script : List LeaseStep}
    (htask : s.tasks[number]? = some ⟨work, before⟩) {lock : Lock Holder}
    (hothers : ∀ other, other ≠ ⟨number, work⟩ → lock.guards other ≤ s.lock.guards other)
    (hself : ∃ kept, Flat kept script ∧ lock.guards ⟨number, work⟩ ≤ kept.toNat) :
    (s.advance number work script lock).Level := by
  have hlt : number < s.tasks.length := by
    by_contra hge
    rw [List.getElem?_eq_none (by omega)] at htask
    cases htask
  have hset : ∀ holder : Holder, holder ≠ ⟨number, work⟩ →
      ∀ after, (s.tasks.set number ⟨work, script⟩)[holder.number]? = some ⟨holder.work, after⟩ →
        s.tasks[holder.number]? = some ⟨holder.work, after⟩ := by
    intro holder hne after hafter
    by_cases hnumber : holder.number = number
    · rw [hnumber, List.getElem?_set_self hlt] at hafter
      have hwork : work = holder.work := congrArg Task.work (Option.some.inj hafter)
      exact absurd (by cases holder; simp_all) hne
    · rwa [List.getElem?_set_ne (Ne.symm hnumber)] at hafter
  refine ⟨fun holder after hafter => ?_, fun holder hnone => ?_⟩
  · by_cases hholder : holder = ⟨number, work⟩
    · subst hholder
      have hscript : script = after := by
        have hsome : (s.tasks.set number ⟨work, script⟩)[number]? = some ⟨work, after⟩ := hafter
        rw [List.getElem?_set_self hlt] at hsome
        exact congrArg Task.script (Option.some.inj hsome)
      rw [← hscript]
      exact hself
    · obtain ⟨kept, hflat, hguards⟩ := h.room holder after (hset holder hholder after hafter)
      exact ⟨kept, hflat, Nat.le_trans (hothers holder hholder) hguards⟩
  · by_cases hholder : holder = ⟨number, work⟩
    · subst hholder
      exact absurd (List.getElem?_set_self hlt) (hnone script)
    · have hbefore : s.lock.guards holder = 0 := by
        refine h.idle holder fun after hafter => ?_
        by_cases hnumber : holder.number = number
        · rw [hnumber, htask] at hafter
          have hwork : work = holder.work := congrArg Task.work (Option.some.inj hafter)
          exact hholder (by cases holder; simp_all)
        · refine hnone after ?_
          show (s.tasks.set number ⟨work, script⟩)[holder.number]? = _
          rwa [List.getElem?_set_ne (Ne.symm hnumber)]
      have hle := hothers holder hholder
      show lock.guards holder = 0
      omega

theorem Level.exec (h : s.Level) (hflat : ∀ work, label = .started work → ¬ work.nests)
    (hstep : s.exec label = some s') : s'.Level := by
  rcases exec_cases hstep with ⟨work, rfl, rfl⟩ | ⟨number, work, script, htask, hidle, -, rfl⟩ |
    ⟨number, work, script, htask, hidle, -, rfl⟩ | ⟨number, work, script, htask, hidle, -, rfl⟩ |
    ⟨number, work, script, htask, -, -, rfl⟩ | ⟨number, task, htask, -, rfl⟩
  · refine ⟨fun holder script hscript => ?_, fun holder hnone => h.idle holder fun script hsome =>
      hnone script ?_⟩
    · have happend : (s.tasks ++ [(⟨work, work.script⟩ : Task)])[holder.number]? =
          some ⟨holder.work, script⟩ := hscript
      rcases Nat.lt_or_ge holder.number s.tasks.length with hlt | hge
      · rw [List.getElem?_append_left hlt] at happend
        exact h.room holder script happend
      · have hguards : s.lock.guards holder = 0 := by
          refine h.idle holder fun script hsome => ?_
          rw [List.getElem?_eq_none hge] at hsome
          cases hsome
        rw [List.getElem?_append_right hge, List.getElem?_singleton] at happend
        obtain ⟨-, htask⟩ := Option.ite_none_right_eq_some.mp happend
        have hscript : work.script = script := congrArg Task.script (Option.some.inj htask)
        refine ⟨false, ?_, Nat.le_of_eq hguards⟩
        rw [← hscript]
        simpa [Work.nests] using hflat work rfl
    · show (s.tasks ++ [(⟨work, work.script⟩ : Task)])[holder.number]? = _
      have hlt : holder.number < s.tasks.length := (List.getElem?_eq_some_iff.mp hsome).1
      rw [List.getElem?_append_left hlt]
      exact hsome
  · obtain ⟨kept, hscript, hguards⟩ := h.room ⟨number, work⟩ _ htask
    obtain ⟨hkept, hrest⟩ := Bool.and_eq_true_iff.mp hscript
    obtain rfl : kept = false := by simpa using hkept
    refine h.advance htask (fun other hother => ?_) ⟨true, hrest, ?_⟩
    · rw [Lock.guards_acquire_read, if_neg (Ne.symm hother)]
      exact Nat.le_refl _
    · rw [Lock.guards_acquire_read, if_pos rfl]
      exact Nat.succ_le_succ hguards
  · obtain ⟨kept, hscript, hguards⟩ := h.room ⟨number, work⟩ _ htask
    refine h.advance htask (fun other _ => ?_) ⟨kept, hscript, ?_⟩
    · exact Nat.le_of_eq (Lock.guards_acquire_write _ _ _)
    · rwa [Lock.guards_acquire_write]
  · obtain ⟨kept, hscript, hguards⟩ := h.room ⟨number, work⟩ _ htask
    refine h.advance htask (fun other _ => Lock.guards_releaseRead _ _ _) ⟨false, hscript, ?_⟩
    have hone : s.lock.guards ⟨number, work⟩ ≤ 1 := Nat.le_trans hguards (Bool.toNat_le kept)
    have hidle' : (⟨number, work⟩, Mode.read) ∉ s.lock.queue := fun hmem =>
      hidle ((s.waiting_iff _).mpr (List.mem_map_of_mem hmem))
    rw [Lock.guards_releaseRead_self hone hidle']
    exact Nat.zero_le _
  · obtain ⟨kept, hscript, hguards⟩ := h.room ⟨number, work⟩ _ htask
    refine h.advance htask (fun other _ => ?_) ⟨kept, hscript, ?_⟩
    · exact Nat.le_of_eq (Lock.guards_releaseWrite _ _)
    · rwa [Lock.guards_releaseWrite]
  · refine h.advance htask (fun other _ => Lock.guards_abandon _ _ _) ⟨false, rfl, ?_⟩
    rw [Lock.guards_abandon_self]
    exact Nat.zero_le _

theorem Level.not_deadlocked (h : s.Level) : ¬ s.Deadlocked := by
  rintro ⟨writer, reader, -, -, hheld, hwaits⟩
  have hguards := Lock.one_lt_guards hheld hwaits
  by_cases htask : ∃ script, s.tasks[reader.number]? = some ⟨reader.work, script⟩
  · obtain ⟨script, hscript⟩ := htask
    obtain ⟨kept, -, hroom⟩ := h.room reader script hscript
    have hone := Bool.toNat_le kept
    omega
  · have hidle := h.idle reader (not_exists.mp htask)
    omega

end LeaseState

/-! ## Runs -/

/-- In a run a reset and a holder of a lease come to wait for each other exactly where a step
nests; and never where no work that nests is started. -/
theorem credential_reset_deadlock {s : LeaseState} {run : List (LeaseLabel × LeaseState)}
    (hinit : leaseSystem.init s) (hrun : leaseSystem.IsRun s run) :
    ((∀ q ∈ System.states s run, ¬ q.Deadlocked) ↔
      ∀ t ∈ System.steps s run, ¬ t.1.Nests t.2.1) ∧
    ((∀ t ∈ System.steps s run, ∀ work, t.2.1 = .started work → ¬ work.nests) →
      ∀ q ∈ System.states s run, ¬ q.Deadlocked) := by
  obtain rfl : s = ⟨.free, []⟩ := hinit
  have horderly : LeaseState.Orderly ⟨.free, []⟩ := ⟨trivial, List.nodup_nil⟩
  have hstart : ¬ LeaseState.Deadlocked ⟨.free, []⟩ := by
    rintro ⟨w, r, -, hw, -⟩
    cases hw
  constructor
  · have hiff := hrun.forall_states_iff (P := fun q => q.Orderly ∧ ¬ q.Deadlocked)
      (G := fun q label => ¬ q.Nests label)
      (fun q label q' hq hstep => by
        have hdead := LeaseState.deadlocked_exec_iff hq.1 hq.2 hstep
        exact ⟨fun h hnests => h.2 (hdead.mpr hnests),
          fun h => ⟨hq.1.exec hstep, fun hd => h (hdead.mp hd)⟩⟩)
      ⟨horderly, hstart⟩
    rw [← hiff]
    have hall : ∀ q ∈ System.states ⟨.free, []⟩ run, q.Orderly :=
      hrun.forall_states (G := fun _ _ => True) (fun _ _ _ h hstep _ => h.exec hstep) horderly
        fun _ _ => trivial
    exact ⟨fun h q hq => ⟨hall q hq, h q hq⟩, fun h q hq => (h q hq).2⟩
  · intro hflat q hq
    have hlevel : LeaseState.Level ⟨.free, []⟩ :=
      ⟨fun _ _ h => by simp at h, fun _ _ => rfl⟩
    have hall := hrun.forall_states (P := LeaseState.Level)
      (G := fun _ label => ∀ work, label = .started work → ¬ work.nests)
      (fun _ _ _ h hstep hworks => h.exec hworks hstep) hlevel hflat
    exact (hall q hq).not_deadlocked

/-! ## A job and a reset -/

def leaseRun (labels : List LeaseLabel) : List (LeaseLabel × LeaseState) :=
  System.replay LeaseState.exec ⟨.free, []⟩ labels

theorem leaseRun_isRun (labels : List LeaseLabel) :
    leaseSystem.IsRun ⟨.free, []⟩ (leaseRun labels) :=
  System.isRun_replay (fun _ _ _ h => h) _ labels

/-- A connection is verified while a reset waits. -/
def verifyingLabels : List LeaseLabel :=
  [.started .verifyConnection, .asked 0, .started .resetStorage, .asked 1, .ended 0, .unlocked 1, .ended 1]

/-- A tagging job keeps its role; a reset comes; the job checks the role again. -/
def taggingLabels : List LeaseLabel :=
  [.started (.tagging 1), .asked 0, .started .resetStorage, .asked 1, .asked 0]

theorem credential_reset_deadlock_verifying :
    (leaseRun verifyingLabels).length = 7 ∧
    ∀ q ∈ System.states ⟨.free, []⟩ (leaseRun verifyingLabels), ¬ q.Deadlocked := by
  have h := credential_reset_deadlock rfl (leaseRun_isRun verifyingLabels)
  refine ⟨by decide +kernel, h.2 fun t ht work hwork => ?_⟩
  have hlabel : t.2.1 ∈ verifyingLabels := System.label_mem_of_replay t ht
  rw [hwork] at hlabel
  simp only [verifyingLabels, List.mem_cons, LeaseLabel.started.injEq, reduceCtorEq,
    List.not_mem_nil, or_false, false_or] at hlabel
  rcases hlabel with rfl | rfl
  · decide
  · decide

theorem tagging_job_deadlocks_reset :
    ∃ s run, leaseSystem.init s ∧ leaseSystem.IsRun s run ∧
      ∃ q ∈ System.states s run, q.Deadlocked := by
  refine ⟨_, leaseRun taggingLabels, rfl, leaseRun_isRun _, _, System.finish_mem_states _ _,
    ⟨1, .resetStorage⟩, ⟨0, .tagging 1⟩, rfl, ?_, ?_, ?_⟩
  · decide +kernel
  · decide +kernel
  · decide +kernel

end MusicServer.Credentials
