/-
# Jobs that are started one at a time

A kind whose jobs are enqueued only where none is active still has its failed and cancelled
jobs run again through the retry that all kinds share.  That retry inserts without a look at
the other jobs, so the kind keeps to one active job exactly in the runs in which every retry
of the kind comes when none is active.
-/
import MusicServer.JobLifecycle

namespace MusicServer

open JobTable Transition

/-- Jobs of the kind are enqueued as unique jobs only. -/
def JobAction.startsUniquely (kind : String) : JobAction → Bool
  | .enqueue other _ _ => other ≠ kind
  | _ => true

namespace JobWorld

def nextUnique (uuid : ℕ → String) (kind : String) (w : JobWorld) (action : JobAction) :
    Option JobWorld :=
  if action.startsUniquely kind then w.next uuid action else none

/-- How many jobs of the kind are queued, running or asked to stop. -/
def activeJobs (kind : String) (w : JobWorld) : ℕ := w.table.countP (activeOf kind)

/-- A retry that inserts a job of the kind finds none of the kind active. -/
def RetriesAlone (kind : String) (w : JobWorld) (action : JobAction) : Prop :=
  ∀ turn now previous, action = .retry turn now → w.retries[turn]? = some previous →
    previous.kind = kind → (w.registry.definition kind).isSome = true → w.activeJobs kind = 0

end JobWorld

/-- The job system where the jobs of one kind are started as unique jobs or retried. -/
def uniqueJobSystem (uuid : ℕ → String) (kind : String) : System JobWorld JobAction where
  init := (jobSystem uuid).init
  step w action w' := w.nextUnique uuid kind action = some w'

namespace JobWorld

variable {uuid : ℕ → String} {kind : String} {w w' : JobWorld}

theorem nextUnique_eq {action : JobAction} (h : w.nextUnique uuid kind action = some w') :
    action.startsUniquely kind = true ∧ w.next uuid action = some w' := by
  unfold nextUnique at h
  split at h
  · next hstarts => exact ⟨hstarts, h⟩
  · cases h

/-! ## The identifiers of the rows -/

/-- The table is in order and its ids were drawn. -/
structure Numbered (uuid : ℕ → String) (w : JobWorld) : Prop where
  valid : Valid w.table
  drawnBefore : ∀ row ∈ w.table, ∃ turn < w.drawn, row.id = uuid turn

theorem numbered_init (h : (jobSystem uuid).init w) : Numbered uuid w := by
  obtain ⟨htable, _⟩ := h
  constructor
  · rw [htable]
    exact valid_nil
  · rw [htable]
    exact fun _ h => absurd h List.not_mem_nil

theorem drawnBefore_of_ids {table table' : JobTable} {drawn drawn' : ℕ}
    (hids : table'.map JobRecord.id = table.map JobRecord.id) (hle : drawn ≤ drawn')
    (h : ∀ row ∈ table, ∃ turn < drawn, row.id = uuid turn) :
    ∀ row ∈ table', ∃ turn < drawn', row.id = uuid turn := by
  intro row' hrow'
  have hid : row'.id ∈ table.map JobRecord.id := by
    rw [← hids]
    exact List.mem_map_of_mem hrow'
  obtain ⟨row, hrow, hsame⟩ := List.mem_map.mp hid
  obtain ⟨turn, hturn, heq⟩ := h row hrow
  exact ⟨turn, by omega, hsame.symm.trans heq⟩

theorem numbered_next (h : Numbered uuid w) {action : JobAction}
    (hnext : w.next uuid action = some w') : Numbered uuid w' := by
  refine ⟨(next_extends h.valid hnext).2, ?_⟩
  have hdrawn : w.drawn ≤ w'.drawn := by
    rcases next_claims hnext with ⟨_, hle⟩ | ⟨_, _, _, heq⟩ <;> omega
  rcases next_table h.valid hnext with ⟨_, _, hsucc, _, job, now, row, hid, _, hinsert⟩ |
    ⟨claim, _, hwritten⟩ | ⟨_, hkept, _⟩
  · obtain ⟨_, htable, hrow, _⟩ := insertJob_ok hinsert
    rw [htable]
    intro other hother
    rcases List.mem_append.mp hother with hold | hnew
    · obtain ⟨turn, hturn, heq⟩ := h.drawnBefore other hold
      exact ⟨turn, by omega, heq⟩
    · rw [List.mem_singleton.mp hnew]
      exact ⟨w.drawn, by omega, hrow.trans hid⟩
  · exact drawnBefore_of_ids hwritten.kept.ids hdrawn h.drawnBefore
  · exact drawnBefore_of_ids hkept.ids hdrawn h.drawnBefore

theorem Numbered.readJob_drawn (h : Numbered uuid w) (huuid : Function.Injective uuid) :
    readJob w.table (uuid w.drawn) = none := by
  rcases hfound : readJob w.table (uuid w.drawn) with _ | row
  · rfl
  · obtain ⟨turn, hturn, heq⟩ := h.drawnBefore row (readJob_mem hfound)
    have hsame : turn = w.drawn := huuid (heq.symm.trans (readJob_id hfound))
    omega

/-! ## Active jobs -/

theorem Inserts.countP {id other : String} {table table' : JobTable}
    (h : Inserts id other table table') :
    table'.countP (activeOf kind)
      = table.countP (activeOf kind) + if other = kind then 1 else 0 := by
  obtain ⟨job, now, row, _, hkind, hinsert⟩ := h
  obtain ⟨_, htable, _, hrowKind, hqueued, _⟩ := insertJob_ok hinsert
  rw [htable, List.countP_append, List.countP_singleton]
  have hactive : activeOf kind row = decide (other = kind) := by
    unfold activeOf
    rw [hrowKind, hkind, hqueued]
    exact Bool.and_true _
  rw [hactive]
  simp only [decide_eq_true_eq]

theorem retryOf_inserts (h : Numbered uuid w) (huuid : Function.Injective uuid)
    {previous : JobRecord} {now : ℤ}
    (hregistered : (w.registry.definition previous.kind).isSome = true) :
    ∃ table row, JobService.retryOf w.registry w.table (uuid w.drawn) previous now
      = .ok (table, row) := by
  obtain ⟨definition, hdefinition⟩ := Option.isSome_iff_exists.mp hregistered
  have hfree := h.readJob_drawn huuid
  unfold JobService.retryOf JobService.enqueueWithRetry JobService.newJob
  simp only [hdefinition, bind, Except.bind, create, insertJob, hfree, ensure, Option.isNone_none,
    if_true, pure, Except.pure, JobService.serviceDependency, Except.mapError]
  exact ⟨_, _, rfl⟩

theorem retryOf_unregistered {table : JobTable} {registry : JobRegistry} {id : String}
    {previous : JobRecord} {now : ℤ} (h : registry.definition previous.kind = none) :
    JobService.retryOf registry table id previous now = .error .unknownKind := by
  unfold JobService.retryOf JobService.enqueueWithRetry JobService.newJob
  rw [h]
  rfl

theorem activeJobs_le_of_not_mayInsert (h : Numbered uuid w) {action : JobAction}
    (hnext : w.next uuid action = some w') (hinsert : mayInsert action = false) :
    w'.activeJobs kind ≤ w.activeJobs kind := by
  rcases next_table h.valid hnext with ⟨_, htrue, _⟩ | ⟨claim, _, hwritten⟩ | ⟨_, hkept, _⟩
  · rw [hinsert] at htrue
    cases htrue
  · exact hwritten.kept.countP_le kind
  · exact hkept.countP_le kind

theorem activeJobs_enqueue {other : String} {parameters : Json} {now : ℤ} (hne : other ≠ kind)
    (hnext : w.next uuid (.enqueue other parameters now) = some w') :
    w'.activeJobs kind = w.activeJobs kind := by
  cases hnext
  rcases inserted_table w (JobService.enqueue w.registry w.table (uuid w.drawn) other parameters
    now) with heq | ⟨table, row, hok, heq⟩
  · unfold activeJobs
    rw [heq]
  · have hcount := @JobWorld.Inserts.countP kind _ _ _ _ (enqueueWithRetry_ok hok)
    unfold activeJobs
    rw [heq, hcount, if_neg hne, Nat.add_zero]

theorem activeJobs_enqueueUniqueActive {other : String} {parameters : Json} {now : ℤ}
    (hone : w.activeJobs kind ≤ 1)
    (hnext : w.next uuid (.enqueueUniqueActive other parameters now) = some w') :
    w'.activeJobs kind ≤ 1 := by
  cases hnext
  unfold activeJobs at hone ⊢
  rcases inserted_table w (JobService.enqueueUniqueActive w.registry w.table (uuid w.drawn) other
    parameters now) with heq | ⟨table, answer, hok, heq⟩ <;> rw [heq]
  · exact hone
  · rcases enqueueUniqueActive_ok hok with hsame | ⟨hnone, hinserts⟩
    · rw [hsame]
      exact hone
    · rw [hinserts.countP]
      split
      · next hkind =>
        rw [hkind] at hnone
        omega
      · omega

theorem activeJobs_retry_iff (h : Numbered uuid w) (huuid : Function.Injective uuid)
    (hone : w.activeJobs kind ≤ 1) {turn : ℕ} {now : ℤ}
    (hnext : w.next uuid (.retry turn now) = some w') :
    w'.activeJobs kind ≤ 1 ↔ RetriesAlone kind w (.retry turn now) := by
  obtain ⟨previous, hprevious, rfl⟩ := Option.map_eq_some_iff.mp hnext
  have hguard : RetriesAlone kind w (.retry turn now) ↔
      (previous.kind = kind → (w.registry.definition kind).isSome = true →
        w.activeJobs kind = 0) := by
    constructor
    · intro halone
      exact halone turn now previous rfl hprevious
    · intro halone turn' now' previous' haction hfound
      cases haction
      rw [hprevious] at hfound
      cases hfound
      exact halone
  rw [hguard]
  by_cases hkind : previous.kind = kind
  · rcases hdefinition : w.registry.definition kind with _ | definition
    · rw [← hkind] at hdefinition
      rw [retryOf_unregistered hdefinition]
      simp only [Option.isSome_none, Bool.false_eq_true, false_implies, implies_true, iff_true]
      exact hone
    · obtain ⟨table, row, hok⟩ := @retryOf_inserts _ _ h huuid _ now
        (show (w.registry.definition previous.kind).isSome = true by rw [hkind, hdefinition]; rfl)
      have hcount := @JobWorld.Inserts.countP kind _ _ _ _ (enqueueWithRetry_ok hok)
      rw [if_pos hkind] at hcount
      rw [hok]
      unfold activeJobs at hone ⊢
      simp only [inserted, hcount, hkind, Option.isSome_some, forall_const]
      omega
  · rcases inserted_table w (JobService.retryOf w.registry w.table (uuid w.drawn) previous now)
      with heq | ⟨table, row, hok, heq⟩
    · unfold activeJobs at hone ⊢
      rw [heq]
      simp only [hkind, false_implies, iff_true]
      exact hone
    · have hcount := @JobWorld.Inserts.countP kind _ _ _ _ (enqueueWithRetry_ok hok)
      rw [if_neg hkind, Nat.add_zero] at hcount
      unfold activeJobs at hone ⊢
      rw [heq, hcount]
      simp only [hkind, false_implies, iff_true]
      exact hone

theorem retriesAlone_of_not_retry {action : JobAction}
    (h : ∀ turn now, action ≠ .retry turn now) : RetriesAlone kind w action :=
  fun turn now _ haction => absurd haction (h turn now)

theorem activeJobs_next_iff (h : Numbered uuid w) (huuid : Function.Injective uuid)
    (hone : w.activeJobs kind ≤ 1) {action : JobAction}
    (hnext : w.nextUnique uuid kind action = some w') :
    w'.activeJobs kind ≤ 1 ↔ RetriesAlone kind w action := by
  obtain ⟨hstarts, hnext⟩ := nextUnique_eq hnext
  by_cases hinsert : mayInsert action = true
  · cases action with
    | enqueue other parameters now =>
      have hne : other ≠ kind := by simpa [JobAction.startsUniquely] using hstarts
      rw [activeJobs_enqueue hne hnext]
      exact iff_of_true hone (retriesAlone_of_not_retry fun _ _ => by simp)
    | enqueueUniqueActive other parameters now =>
      exact iff_of_true (activeJobs_enqueueUniqueActive hone hnext)
        (retriesAlone_of_not_retry fun _ _ => by simp)
    | retry turn now => exact activeJobs_retry_iff h huuid hone hnext
    | _ => cases hinsert
  · rw [Bool.not_eq_true] at hinsert
    have hle : w'.activeJobs kind ≤ w.activeJobs kind :=
      activeJobs_le_of_not_mayInsert h hnext hinsert
    refine iff_of_true (by omega) (retriesAlone_of_not_retry ?_)
    rintro turn now rfl
    cases hinsert

end JobWorld

open JobWorld

theorem numbered_run {uuid : ℕ → String} {kind : String} {w : JobWorld} (h : Numbered uuid w)
    {run : List (JobAction × JobWorld)} (hrun : (uniqueJobSystem uuid kind).IsRun w run) :
    ∀ later ∈ System.states w run, Numbered uuid later :=
  have hstep : ∀ (v : JobWorld) (action : JobAction) (v' : JobWorld), Numbered uuid v →
      (uniqueJobSystem uuid kind).step v action v' → True → Numbered uuid v' :=
    fun _ _ _ hnumbered hnext _ => numbered_next hnumbered (nextUnique_eq hnext).2
  hrun.forall_states hstep h fun _ _ => trivial

/-- From an empty table, a kind started as unique jobs and retried has at most one active job
in every state of a run exactly where every retry of the kind comes when none is active. -/
theorem one_active_job_iff {uuid : ℕ → String} (huuid : Function.Injective uuid) {kind : String}
    {w : JobWorld} (hinit : (uniqueJobSystem uuid kind).init w)
    {run : List (JobAction × JobWorld)} (hrun : (uniqueJobSystem uuid kind).IsRun w run) :
    (∀ later ∈ System.states w run, later.activeJobs kind ≤ 1) ↔
      ∀ t ∈ System.steps w run, RetriesAlone kind t.1 t.2.1 := by
  have hnumbered : Numbered uuid w := numbered_init hinit
  have hzero : w.activeJobs kind ≤ 1 := by
    unfold activeJobs
    rw [hinit.1]
    exact Nat.zero_le _
  have hall := numbered_run hnumbered hrun
  have hiff := hrun.forall_states_iff
    (P := fun v => Numbered uuid v ∧ v.activeJobs kind ≤ 1) (G := RetriesAlone kind)
    (fun v action v' hv hnext => by
      have hv' := numbered_next hv.1 (nextUnique_eq hnext).2
      rw [and_iff_right hv']
      exact activeJobs_next_iff hv.1 huuid hv.2 hnext) ⟨hnumbered, hzero⟩
  rw [← hiff]
  constructor
  · intro hone later hlater
    exact ⟨hall later hlater, hone later hlater⟩
  · intro hboth later hlater
    exact (hboth later hlater).2

/-! ### A retry beside an active job -/

/-- A job is cancelled, a second one started, and the first run again. -/
def retryBesideActive : List JobAction :=
  [.enqueueUniqueActive "scan" (.object []) 10, .cancel (unaryUuid 0) 11,
    .readForRetry (unaryUuid 0), .enqueueUniqueActive "scan" (.object []) 12, .retry 0 13]

def retriedScan : List (JobAction × JobWorld) :=
  System.replay (nextUnique unaryUuid "scan") noJobs retryBesideActive

theorem retriedScan_isRun : (uniqueJobSystem unaryUuid "scan").IsRun noJobs retriedScan :=
  System.isRun_replay (fun _ _ _ h => h) noJobs retryBesideActive

theorem two_active_after_retry :
    ¬ ∀ run, (uniqueJobSystem unaryUuid "scan").IsRun noJobs run →
      ∀ later ∈ System.states noJobs run, later.activeJobs "scan" ≤ 1 := by
  intro hone
  have hle := hone retriedScan retriedScan_isRun _ (System.finish_mem_states noJobs retriedScan)
  have htwo : (System.finish noJobs retriedScan).activeJobs "scan" = 2 := by decide +kernel
  omega

/-- `one_active_job_iff` at that run: it breaks the bound because its retry does not come
alone. -/
theorem one_active_job_iff_retriedScan :
    (∀ later ∈ System.states noJobs retriedScan, later.activeJobs "scan" ≤ 1) ↔
      ∀ t ∈ System.steps noJobs retriedScan, RetriesAlone "scan" t.1 t.2.1 :=
  one_active_job_iff unaryUuid_injective ⟨rfl, rfl, rfl, rfl⟩ retriedScan_isRun

end MusicServer
