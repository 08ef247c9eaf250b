/-
# The life of a job

In every world the system reaches, whatever the order of requests, executions, shutdowns and
restarts:

* a job that has ended stays as it is;
* a write of an execution takes effect only under the lease of its job, which one execution
  holds at a time;
* a cancellation that was accepted ends in a cancelled job and nothing else;
* a lane hands out its waiting jobs by the second they were created in, and by their rows
  within a second, and a job that is queued again keeps its place.
-/
import MusicServer.JobService

namespace MusicServer

open JobTable Transition

namespace JobWorld

variable {uuid : ℕ → String} {w w' : JobWorld}

/-! ## The claims handed out -/

theorem claimNext_executionId {table : JobTable} {lane : JobLane} {executionId : String}
    {now : ℤ} {claim : JobClaim}
    (h : (claimNext table lane executionId now).2 = some claim) :
    claim.executionId = executionId := by
  unfold claimNext at h
  split at h
  · cases h
  · obtain ⟨job, _, rfl⟩ := Option.map_eq_some_iff.mp h
    rfl

theorem inserted_claims {α : Type} (w : JobWorld)
    (result : Except JobServiceError (JobTable × α)) :
    (w.inserted result).claims = w.claims ∧ w.drawn ≤ (w.inserted result).drawn := by
  rw [inserted_drawn]
  refine ⟨?_, Nat.le_succ _⟩
  unfold inserted
  split <;> rfl

theorem next_claims {action : JobAction} (h : w.next uuid action = some w') :
    (w'.claims = w.claims ∧ w.drawn ≤ w'.drawn) ∨
      ∃ claim : JobClaim, claim.executionId = uuid w.drawn ∧ w'.claims = w.claims ++ [claim] ∧
        w'.drawn = w.drawn + 1 := by
  cases action with
  | enqueue kind parameters now | enqueueUniqueActive kind parameters now =>
    cases h
    exact Or.inl (inserted_claims w _)
  | readForRetry id =>
    simp only [next] at h
    split at h <;> cases h <;> exact Or.inl ⟨rfl, le_refl _⟩
  | retry turn now =>
    obtain ⟨previous, _, rfl⟩ := Option.map_eq_some_iff.mp h
    exact Or.inl (inserted_claims w _)
  | cancel id now | shutdown | restart registry now =>
    cases h
    exact Or.inl ⟨rfl, le_refl _⟩
  | claim lane now =>
    cases h
    rcases hanswer : (claimNext w.table lane (uuid w.drawn) now).2 with _ | claim
    · refine Or.inl ⟨?_, Nat.le_succ _⟩
      show w.claims ++ (claimNext w.table lane (uuid w.drawn) now).2.toList = w.claims
      rw [hanswer, Option.toList_none, List.append_nil]
    · refine Or.inr ⟨claim, claimNext_executionId hanswer, ?_, rfl⟩
      show w.claims ++ (claimNext w.table lane (uuid w.drawn) now).2.toList = w.claims ++ [claim]
      rw [hanswer, Option.toList_some]
  | progress turn progress now =>
    obtain ⟨claim, _, rfl⟩ := Option.map_eq_some_iff.mp h
    left
    split <;> exact ⟨rfl, le_refl _⟩
  | checkpoint turn result now =>
    obtain ⟨claim, _, rfl⟩ := Option.map_eq_some_iff.mp h
    exact Or.inl ⟨rfl, le_refl _⟩
  | executionEnds turn ended unreadable =>
    obtain ⟨claim, _, hnext⟩ := Option.bind_eq_some_iff.mp h
    simp only at hnext
    split at hnext
    · cases hnext
    · cases hnext
      exact Or.inl ⟨rfl, le_refl _⟩
  | finish turn now =>
    obtain ⟨ending, _, rfl⟩ := Option.map_eq_some_iff.mp h
    exact Or.inl ⟨rfl, le_refl _⟩

/-! ## The invariant -/

/-- The table is in order, and no two claims were handed out under one identifier. -/
structure Consistent (uuid : ℕ → String) (w : JobWorld) : Prop where
  valid : Valid w.table
  drawnBefore : ∀ claim ∈ w.claims, ∃ turn < w.drawn, claim.executionId = uuid turn
  distinct : (w.claims.map JobClaim.executionId).Nodup

theorem consistent_init (h : (jobSystem uuid).init w) : Consistent uuid w := by
  obtain ⟨htable, hclaims, _, _⟩ := h
  constructor
  · rw [htable]
    exact valid_nil
  · rw [hclaims]
    exact fun _ h => absurd h List.not_mem_nil
  · rw [hclaims]
    exact List.nodup_nil

theorem consistent_next (huuid : Function.Injective uuid) (h : Consistent uuid w)
    {action : JobAction} (hnext : w.next uuid action = some w') : Consistent uuid w' := by
  refine ⟨(next_extends h.valid hnext).2, ?_, ?_⟩
  · rcases next_claims hnext with ⟨hclaims, hdrawn⟩ | ⟨claim, hid, hclaims, hdrawn⟩ <;> rw [hclaims]
    · intro other hother
      obtain ⟨turn, hturn, heq⟩ := h.drawnBefore other hother
      exact ⟨turn, by omega, heq⟩
    · intro other hother
      rcases List.mem_append.mp hother with hold | hnew
      · obtain ⟨turn, hturn, heq⟩ := h.drawnBefore other hold
        exact ⟨turn, by omega, heq⟩
      · rw [List.mem_singleton.mp hnew]
        exact ⟨w.drawn, by omega, hid⟩
  · rcases next_claims hnext with ⟨hclaims, _⟩ | ⟨claim, hid, hclaims, _⟩ <;> rw [hclaims]
    · exact h.distinct
    · rw [List.map_append, List.nodup_append]
      refine ⟨h.distinct, List.nodup_singleton _, ?_⟩
      intro id hold id' hnew heq
      rw [List.map_singleton, List.mem_singleton, hid] at hnew
      obtain ⟨old, hmem, hold⟩ := List.mem_map.mp hold
      obtain ⟨turn, hturn, hturnId⟩ := h.drawnBefore old hmem
      have hsame : turn = w.drawn := huuid (by rw [← hturnId, hold, heq, hnew])
      omega

theorem consistent_of_reachable (huuid : Function.Injective uuid)
    (h : (jobSystem uuid).Reachable w) : Consistent uuid w :=
  h.invariant (fun _ hinit => consistent_init hinit)
    fun _ _ _ hconsistent hnext => consistent_next huuid hconsistent hnext

theorem Consistent.one_lease (h : Consistent uuid w) {claim claim' : JobClaim}
    (hmem : claim ∈ w.claims) (hmem' : claim' ∈ w.claims) (hlease : HoldsLease w.table claim)
    (hlease' : HoldsLease w.table claim') (hjob : claim.job.id = claim'.job.id) :
    claim = claim' := by
  obtain ⟨row, hrow, hheld⟩ := holdsLease_iff.mp hlease
  obtain ⟨row', hrow', hheld'⟩ := holdsLease_iff.mp hlease'
  rw [hjob, hrow'] at hrow
  cases hrow
  have hexecution := (heldBy_eq_true.mp hheld).2.1
  have hexecution' := (heldBy_eq_true.mp hheld').2.1
  have hid : claim.executionId = claim'.executionId :=
    Option.some.inj (hexecution.symm.trans hexecution')
  exact List.inj_on_of_nodup_map h.distinct hmem hmem' hid

/-! ## Whole runs -/

theorem consistent_run (huuid : Function.Injective uuid) (h : Consistent uuid w)
    {run : List (JobAction × JobWorld)} (hrun : (jobSystem uuid).IsRun w run) :
    ∀ later ∈ System.states w run, Consistent uuid later ∧ Extends w.table later.table := by
  have hstep : ∀ (v : JobWorld) (action : JobAction) (v' : JobWorld),
      Consistent uuid v ∧ Extends w.table v.table → (jobSystem uuid).step v action v' → True →
        Consistent uuid v' ∧ Extends w.table v'.table := by
    rintro v action v' ⟨hconsistent, hextends⟩ hnext _
    exact ⟨consistent_next huuid hconsistent hnext,
      hextends.trans (next_extends hconsistent.valid hnext).1⟩
  exact hrun.forall_states hstep ⟨h, .refl _⟩ fun _ _ => trivial

theorem later_of_run (huuid : Function.Injective uuid) (h : Consistent uuid w)
    {run : List (JobAction × JobWorld)} (hrun : (jobSystem uuid).IsRun w run) {later : JobWorld}
    (hlater : later ∈ System.states w run) {id : String} {row : JobRecord}
    (hrow : readJob w.table id = some row) :
    ∃ row', readJob later.table id = some row' ∧ row.Later row' :=
  (consistent_run huuid h hrun later hlater).2.readJob hrow

/-! ## The order of claims -/

/-- The job has been claimed before, or was cancelled while it waited. -/
def HadTurn (row : JobRecord) : Prop :=
  row.status ≠ .queued ∧ (0 < row.attempts ∨ row.status = .cancelled)

theorem hadTurn_of_started {row : JobRecord} (h : row.Started) (hqueued : row.status ≠ .queued) :
    HadTurn row := by
  refine ⟨hqueued, ?_⟩
  rcases Nat.eq_zero_or_pos row.attempts with hzero | hpos
  · rcases h hzero with hstatus | hstatus
    · exact absurd hstatus hqueued
    · exact Or.inr hstatus
  · exact Or.inl hpos

/-- The job handed out, and all that stands before it in its lane has had its turn: the jobs
created in an earlier second, and of its own second those in earlier rows. -/
theorem claim_in_order (hvalid : Valid w.table) {lane : JobLane} {executionId : String}
    {now : ℤ} {claim : JobClaim} (h : (claimNext w.table lane executionId now).2 = some claim) :
    ∃ before row after, w.table = before ++ row :: after ∧ row.id = claim.job.id ∧
      row.status = .queued ∧ row.lane = lane ∧
      (∀ other ∈ before, other.lane = lane →
        other.createdAtUnixSeconds ≤ row.createdAtUnixSeconds → HadTurn other) ∧
      (∀ other ∈ after, other.lane = lane →
        other.createdAtUnixSeconds < row.createdAtUnixSeconds → HadTurn other) := by
  obtain ⟨row, holdest, rfl⟩ := claimNext_some hvalid h
  obtain ⟨_, hqueued, hlane⟩ := mem_claimable holdest
  obtain ⟨earlier, later, hsplit, hearlier, hlater⟩ := oldest_split holdest
  obtain ⟨first, rest, htable, hfirst, hrest⟩ := List.filter_eq_append_iff.mp hsplit
  obtain ⟨middle, after, rfl, hmiddle, _, hafter⟩ := List.filter_eq_cons_iff.mp hrest
  have hstarted := hvalid.started
  have hclaimable : ∀ {other : JobRecord}, other.lane = lane → other.status = .queued →
      claimable lane other = true := by
    intro other hother hstatus
    simp [claimable, hother, hstatus]
  refine ⟨first ++ middle, row, after, by rw [htable, List.append_assoc], rfl, hqueued, hlane,
    ?_, ?_⟩
  · intro other hmem hother hle
    refine hadTurn_of_started (hstarted other ?_) ?_
    · rw [htable, ← List.append_assoc]
      exact List.mem_append_left _ hmem
    · intro hstatus
      rcases List.mem_append.mp hmem with hmem | hmem
      · have hin : other ∈ earlier := by
          rw [← hfirst]
          exact List.mem_filter.mpr ⟨hmem, hclaimable hother hstatus⟩
        have := hearlier other hin
        omega
      · exact hmiddle other hmem (hclaimable hother hstatus)
  · intro other hmem hother hlt
    refine hadTurn_of_started (hstarted other ?_) ?_
    · rw [htable]
      exact List.mem_append_right _ (List.mem_append_right _ (List.mem_cons_of_mem _ hmem))
    · intro hstatus
      have hin : other ∈ later := by
        rw [← hafter]
        exact List.mem_filter.mpr ⟨hmem, hclaimable hother hstatus⟩
      have := hlater other hin
      omega

theorem oldest_of_sorted {rows : JobTable}
    (h : rows.Pairwise fun row row' => row.createdAtUnixSeconds ≤ row'.createdAtUnixSeconds) :
    oldest rows = rows.head? := by
  induction rows with
  | nil => rfl
  | cons row rest ih =>
    rw [List.pairwise_cons] at h
    unfold oldest
    rcases hrest : oldest rest with _ | later
    · rfl
    · have hle := h.1 later (oldest_mem hrest)
      simp only [not_lt.mpr hle, if_false, List.head?_cons]

/-- No job that was created before the claimed one still waits in its lane. -/
def ClaimedInOrderOfCreation (table : JobTable) (lane : JobLane) (claim : JobClaim) : Prop :=
  ∀ before row after, table = before ++ row :: after → row.id = claim.job.id →
    ∀ other ∈ before, other.lane = lane → HadTurn other

theorem claimed_in_order_of_creation (hvalid : Valid w.table) {lane : JobLane}
    {executionId : String} {now : ℤ} {claim : JobClaim}
    (h : (claimNext w.table lane executionId now).2 = some claim)
    (hclock : w.table.Pairwise fun row row' =>
      row.createdAtUnixSeconds ≤ row'.createdAtUnixSeconds) :
    ClaimedInOrderOfCreation w.table lane claim := by
  intro before row after htable hid other hmem hlane
  obtain ⟨taken, holdest, rfl⟩ := claimNext_some hvalid h
  refine hadTurn_of_started (hvalid.started other (by rw [htable]; exact List.mem_append_left _ hmem))
    ?_
  intro hqueued
  rw [oldest_of_sorted (hclock.filter _), htable, List.filter_append] at holdest
  have hwaits : other ∈ before.filter (claimable lane) :=
    List.mem_filter.mpr ⟨hmem, by simp [claimable, hqueued, hlane]⟩
  obtain ⟨first, rest, hfirst⟩ := List.exists_cons_of_ne_nil (List.ne_nil_of_mem hwaits)
  rw [hfirst, List.cons_append, List.head?_cons, Option.some.injEq] at holdest
  subst holdest
  -- The job taken would stand both before and at the row that bears its id.
  have hbefore : first ∈ before := by
    have hin : first ∈ before.filter (claimable lane) := by
      rw [hfirst]
      exact List.mem_cons_self
    exact (List.mem_filter.mp hin).1
  have hdistinct := hvalid.distinct
  rw [htable, List.map_append, List.nodup_append] at hdistinct
  exact hdistinct.2.2 _ (List.mem_map_of_mem hbefore) _ (List.mem_map_of_mem List.mem_cons_self)
    hid.symm

theorem extends_contracts {table table' : JobTable} (h : Extends table table') :
    table.map JobRecord.contract <+: table'.map JobRecord.contract := by
  obtain ⟨follow, added, rfl, hfollow⟩ := h
  refine ⟨added.map JobRecord.contract, ?_⟩
  rw [List.map_append, List.map_map]
  congr 1
  refine List.map_congr_left ?_
  intro row hrow
  exact (hfollow row hrow).contract.symm

end JobWorld

open JobWorld

/-! ## The life of a job -/

theorem job_lifecycle {uuid : ℕ → String} (huuid : Function.Injective uuid) {w : JobWorld}
    (hw : (jobSystem uuid).Reachable w) :
    -- A job that has ended stays as it is.
    (∀ run, (jobSystem uuid).IsRun w run → ∀ later ∈ System.states w run, ∀ row ∈ w.table,
      row.status.isActive = false → readJob later.table row.id = some row) ∧
    -- A write of an execution takes effect only under its lease, and only on its own job.
    (∀ action w', (jobSystem uuid).step w action w' → ∀ claim, w.writer action = some claim →
      (w'.table ≠ w.table → HoldsLease w.table claim) ∧
      ∀ id, id ≠ claim.job.id → readJob w'.table id = readJob w.table id) ∧
    (∀ claim ∈ w.claims, ∀ claim' ∈ w.claims, claim.job.id = claim'.job.id →
      HoldsLease w.table claim → HoldsLease w.table claim' → claim = claim') ∧
    -- An accepted cancellation ends in a cancelled job.
    (∀ id now job w', (jobSystem uuid).step w (.cancel id now) w' →
      (requestCancellation w.table id now).2 = some (job, true) →
      ∀ run, (jobSystem uuid).IsRun w' run → ∀ later ∈ System.states w' run,
        ∃ row, readJob later.table id = some row ∧
          (row.status = .cancelRequested ∨ row.status = .cancelled)) ∧
    -- A lane hands out its jobs by the second of their creation, then by their rows.
    (∀ lane now w', (jobSystem uuid).step w (.claim lane now) w' → ∀ claim,
      w'.claims = w.claims ++ [claim] →
      ∃ before row after, w.table = before ++ row :: after ∧ row.id = claim.job.id ∧
        row.status = .queued ∧ row.lane = lane ∧
        (∀ other ∈ before, other.lane = lane →
          other.createdAtUnixSeconds ≤ row.createdAtUnixSeconds → HadTurn other) ∧
        (∀ other ∈ after, other.lane = lane →
          other.createdAtUnixSeconds < row.createdAtUnixSeconds → HadTurn other)) ∧
    -- So it does in the order of creation as long as the clock does not go back.
    (∀ lane now w', (jobSystem uuid).step w (.claim lane now) w' → ∀ claim,
      w'.claims = w.claims ++ [claim] →
      (w.table.Pairwise fun row row' => row.createdAtUnixSeconds ≤ row'.createdAtUnixSeconds) →
      ClaimedInOrderOfCreation w.table lane claim) ∧
    -- A job keeps its place, its lane and the second of its creation.
    (∀ run, (jobSystem uuid).IsRun w run → ∀ later ∈ System.states w run,
      w.table.map JobRecord.contract <+: later.table.map JobRecord.contract) := by
  have hconsistent := consistent_of_reachable huuid hw
  refine ⟨?_, ?_, ?_, ?_, ?_, ?_, ?_⟩
  · intro run hrun later hlater row hrow hended
    obtain ⟨row', hfound, hlater⟩ :=
      later_of_run huuid hconsistent hrun hlater (hconsistent.valid.readJob_of_mem hrow)
    rw [hfound, hlater.ended hended]
  · intro action w' hnext claim hwriter
    rcases next_table hconsistent.valid hnext with ⟨hnone, _⟩ | ⟨claim', hwriter', hwritten⟩ |
      ⟨hnone, _⟩
    · rw [hnone] at hwriter
      cases hwriter
    · rw [hwriter'] at hwriter
      cases hwriter
      exact ⟨hwritten.holdsLease hconsistent.valid, fun id hne => hwritten.other hne⟩
    · rw [hnone] at hwriter
      cases hwriter
  · intro claim hmem claim' hmem' hjob hlease hlease'
    exact hconsistent.one_lease hmem hmem' hlease hlease' hjob
  · intro id now job w' hnext hchanged run hrun later hlater
    have hconsistent' := consistent_next huuid hconsistent hnext
    cases hnext
    obtain ⟨hfound, hstatus⟩ := requestCancellation_changed hchanged
    obtain ⟨row, hrow, hrowLater⟩ := later_of_run huuid hconsistent' hrun hlater hfound
    refine ⟨row, hrow, ?_⟩
    rcases hstatus with hstatus | hstatus
    · exact hrowLater.cancelling hstatus
    · rw [hrowLater.ended (by rw [hstatus]; rfl)]
      exact Or.inr hstatus
  · intro lane now w' hnext claim hclaims
    cases hnext
    have hanswer : (claimNext w.table lane (uuid w.drawn) now).2.toList = [claim] :=
      List.append_cancel_left hclaims
    rw [Option.toList_eq_singleton_iff] at hanswer
    exact claim_in_order hconsistent.valid hanswer
  · intro lane now w' hnext claim hclaims hclock
    cases hnext
    have hanswer : (claimNext w.table lane (uuid w.drawn) now).2.toList = [claim] :=
      List.append_cancel_left hclaims
    rw [Option.toList_eq_singleton_iff] at hanswer
    exact claimed_in_order_of_creation hconsistent.valid hanswer hclock
  · intro run hrun later hlater
    exact extends_contracts (consistent_run huuid hconsistent hrun later hlater).2

/-! ### A clock that went back -/

def unaryUuid (turn : ℕ) : String := String.ofList (List.replicate turn 'a')

theorem unaryUuid_injective : Function.Injective unaryUuid := by
  intro turn turn' h
  have hlength := congrArg (fun text => text.toList.length) h
  simpa [unaryUuid] using hlength

/-- A process that knows one kind of job, which it can run again. -/
def scanRegistry : JobRegistry where
  definitions := [⟨"scan", 1, .localLane, true, .replace⟩]
  validated := by decide +kernel
  distinct := by decide +kernel

def noJobs : JobWorld := ⟨[], scanRegistry, false, 0, [], [], []⟩

def waitingScan (turn : ℕ) (created : ℤ) : JobRecord where
  id := unaryUuid turn
  kind := "scan"
  status := .queued
  parameters := []
  result := none
  error := none
  progressCurrent := 0
  progressTotal := none
  progressPhase := "Queued"
  progressMessage := ""
  attempts := 0
  retryOfId := none
  createdAtUnixSeconds := created
  updatedAtUnixSeconds := created
  startedAtUnixSeconds := none
  finishedAtUnixSeconds := none
  lane := .localLane
  schemaVersion := 1
  restartable := true
  checkpointPolicy := .replace
  executionId := none

def oneJob : JobWorld := { noJobs with table := [waitingScan 0 10], drawn := 1 }

/-- Two jobs of one lane, the second created after the clock went back by five seconds. -/
def twoJobs : JobWorld :=
  { noJobs with table := [waitingScan 0 10, waitingScan 1 5], drawn := 2 }

theorem twoJobs_reachable : (jobSystem unaryUuid).Reachable twoJobs := by
  have hfirst : (jobSystem unaryUuid).step noJobs (.enqueue "scan" (.object []) 10) oneJob := rfl
  have hsecond : (jobSystem unaryUuid).step oneJob (.enqueue "scan" (.object []) 5) twoJobs := rfl
  have hempty : (jobSystem unaryUuid).Reachable noJobs := .init ⟨rfl, rfl, rfl, rfl⟩
  exact (hempty.step hfirst).step hsecond

/-- What `job_lifecycle` says of the claim that follows. -/
theorem job_lifecycle_two_jobs :
    ∃ before row after, twoJobs.table = before ++ row :: after ∧ row.id = unaryUuid 1 ∧
      row.status = .queued ∧ row.lane = .localLane ∧
      (∀ other ∈ before, other.lane = .localLane →
        other.createdAtUnixSeconds ≤ row.createdAtUnixSeconds → HadTurn other) ∧
      (∀ other ∈ after, other.lane = .localLane →
        other.createdAtUnixSeconds < row.createdAtUnixSeconds → HadTurn other) :=
  (job_lifecycle unaryUuid_injective twoJobs_reachable).2.2.2.2.1 .localLane 20 _ rfl
    ⟨startExecution (unaryUuid 2) 20 (waitingScan 1 5), unaryUuid 2⟩ rfl

/-- The second of two jobs is claimed while the first still waits. -/
theorem later_job_claimed_first :
    ∃ w' claim, (jobSystem unaryUuid).Reachable twoJobs ∧
      (jobSystem unaryUuid).step twoJobs (.claim .localLane 20) w' ∧
      w'.claims = twoJobs.claims ++ [claim] ∧
      ¬ ClaimedInOrderOfCreation twoJobs.table .localLane claim := by
  refine ⟨_, ⟨startExecution (unaryUuid 2) 20 (waitingScan 1 5), unaryUuid 2⟩, twoJobs_reachable,
    rfl, rfl, ?_⟩
  intro horder
  have hturn := horder [waitingScan 0 10] (waitingScan 1 5) [] rfl rfl (waitingScan 0 10)
    List.mem_cons_self rfl
  exact hturn.1 rfl

end MusicServer
