/-
# Writes while a journal is unfinished

The gate and the flag are there so that no request is admitted while a journal of another one is
unfinished.  They do this unless the creation of a journal is reported as failed although its row
is there, or the future of a request is gone between that creation and the last transition.
-/
import MusicServer.SfxCoordinator

namespace MusicServer

open Futures Futures.Future

/-! ## Validated JSON -/

theorem textLength_le (text : List Char) :
    CleanupItem.textLength text ≤ 2 + 6 * (String.ofList text).utf8ByteSize := by
  unfold CleanupItem.textLength
  refine Nat.add_le_add_left ?_ 2
  induction text with
  | nil => exact Nat.zero_le _
  | cons c rest ih =>
    have hsize : (String.ofList (c :: rest)).utf8ByteSize
        = c.utf8Size + (String.ofList rest).utf8ByteSize := by
      rw [← List.singleton_append, String.ofList_append, String.utf8ByteSize_append]
      congr 1
      exact String.utf8ByteSize_singleton
    have hpos := c.utf8Size_pos
    rw [List.map_cons, List.sum_cons, hsize]
    have hcost : (if c = '"' ∨ c = '\\' ∨ c = '\n' ∨ c = '\r' ∨ c = '\t' ∨ c.toNat = 8 ∨ c.toNat = 12
        then 2 else if c.toNat < 0x20 then 6 else c.utf8Size) ≤ 6 * c.utf8Size := by
      split
      · omega
      · split <;> omega
    omega

variable {floatLength : BitVec 64 → ℕ}

theorem validateJson_field {key value : String} (hkey : key.utf8ByteSize ≤ 64)
    (hvalue : value.utf8ByteSize ≤ 64) :
    validateJson floatLength (.object [(key, .string value)]) = .ok () := by
  have hkeyLength := textLength_le key.toList
  have hvalueLength := textLength_le value.toList
  rw [String.ofList_toList] at hkeyLength hvalueLength
  have hsmall : ¬ maxJsonBytes
      < (Json.object [(key, .string value)]).encodedLength floatLength := by
    simp only [Json.encodedLength, fieldsLength, maxJsonBytes, List.length_cons, List.length_nil]
    omega
  unfold validateJson
  rw [if_neg hsmall]
  rfl

/-! ## What holds -/

/-- No journal of the sound effects is planned or applying. -/
def Settled (world : SfxWorld) : Prop :=
  ∀ row ∈ world.journals, row.unfinishedIn .sfx = false

/-- Since the journal was created, only its own request changed files. -/
def Unreplayed (id : String) (log : List SfxEvent) : Prop :=
  ∀ other, SfxEvent.applied other ∈ log.takeWhile (· ≠ .created id) → other = id

/-- What holds at any time: an id names one row, nothing was written since an unfinished journal
was created but its own files, nor was it when a journal was replayed. -/
structure SfxHistory (world : SfxWorld) : Prop where
  ids : (world.journals.map JournalRow.id).Nodup
  domain : ∀ row ∈ world.journals, row.domain = .sfx
  fresh : ∀ row ∈ world.journals, row.unfinishedIn .sfx = true → Unreplayed row.id world.log
  replays : ∀ later id earlier, world.log = later ++ .replayed id :: earlier → Unreplayed id earlier

/-- The call was not lost before it was done. -/
def SfxDraw.done : SfxDraw → Bool
  | .lost false _ => false
  | _ => true

/-- A journal's creation is not reported as failed once its row is there. -/
def sfxAnswers (point : SfxPoint) (draw : SfxDraw) : Prop :=
  point = .createJournal → ∀ now, draw ≠ .lost true now

/-- No task is gone while its journal is unfinished: at the creation before it was done, at the
last transition once it was done, and not in between. -/
def sfxDrops : SfxPoint → Option SfxDraw → Prop
  | .createJournal, effect => ∀ draw ∈ effect, draw.done = false
  | .transition next, effect => next.isTerminal = true ∧ ∃ draw ∈ effect, draw.done = true
  | .apply, _ => False
  | _, _ => True

/-- The contract between the requests: the history, and nothing unfinished once one is admitted. -/
def sfxContract : Contract SfxPoint SfxDraw SfxWorld where
  quiet world := SfxHistory world ∧
    (world.serving = true → world.recoveryRequired = true ∨ Settled world)
  check point world := SfxHistory world ∧
    (point = .admission → world.recoveryRequired = false → Settled world)
  free point := point = .step ∨ point = .lock
  answers := sfxAnswers
  drops point effect := sfxDrops point effect

/-- A request holds the gate; where no recovery is asked for, nothing is unfinished. -/
structure Holding (task : SfxTask) (world : SfxWorld) : Prop where
  gate : world.gate = some task
  history : SfxHistory world
  settled : world.recoveryRequired = true ∨ Settled world

abbrev Guarded {α : Type} (task : SfxTask) (future : SfxFuture α)
    (Q : Except SfxCoordinatorError α → SfxWorld → Prop) (world : SfxWorld) : Prop :=
  future.Inside sfxLock sfxContract task Q world

section

variable {task : SfxTask} {world : SfxWorld} {α β : Type}

theorem quiet_release {world : SfxWorld} (h : SfxHistory world)
    (hsettled : world.serving = true → world.recoveryRequired = true ∨ Settled world) :
    sfxContract.quiet (sfxLock.release task world) := by
  show sfxContract.quiet (if world.gate = some task then { world with gate := none } else world)
  split
  · exact ⟨⟨h.ids, h.domain, h.fresh, h.replays⟩, hsettled⟩
  · exact ⟨h, hsettled⟩

theorem Holding.quiet (h : Holding task world) :
    sfxContract.quiet (sfxLock.release task world) := quiet_release h.history fun _ => h.settled

variable {Q : Except SfxCoordinatorError β → SfxWorld → Prop}

theorem guarded_bind {future : SfxFuture α} {f : α → SfxFuture β}
    {R : Except SfxCoordinatorError α → SfxWorld → Prop} (h : Guarded task future R world)
    (herror : ∀ e world, R (.error e) world → Q (.error e) world)
    (hok : ∀ a world, R (.ok a) world → Guarded task (f a) Q world) :
    Guarded task (future >>= f) Q world := by
  refine Inside.bind (h.mono ?_)
  intro result world hresult
  cases result with
  | error e => exact herror e world hresult
  | ok a => exact hok a world hresult

theorem guarded_ofExcept_bind {result : Except SfxCoordinatorError α} {f : α → SfxFuture β}
    (herror : ∀ e, result = .error e → Q (.error e) world)
    (hok : ∀ a, result = .ok a → Guarded task (f a) Q world) :
    Guarded task (.ofExcept result >>= f) Q world := by
  cases result with
  | error e => exact herror e rfl
  | ok a => exact hok a rfl

theorem guarded_attempt_bind {future : SfxFuture α} {f : Except SfxCoordinatorError α → SfxFuture β}
    {R : Except SfxCoordinatorError α → SfxWorld → Prop} (h : Guarded task future R world)
    (hresult : ∀ result world, R result world → Guarded task (f result) Q world) :
    Guarded task (future.attempt >>= f) Q world :=
  Inside.bind (Inside.attempt (h.mono hresult))

theorem guarded_still {point : SfxPoint} {poll : SfxDraw → SfxWorld → Option (Except SfxCoordinatorError α × SfxWorld)}
    {Q : Except SfxCoordinatorError α → SfxWorld → Prop} (h : Holding task world)
    (hpoint : point = .admission → world.recoveryRequired = false → Settled world)
    (hstill : ∀ draw result world', poll draw world = some (result, world') →
      world' = world ∧ Q result world) :
    Guarded task (.ask point poll) Q world := by
  refine ⟨⟨h.history, hpoint⟩, fun _ _ => h.quiet, ?_⟩
  intro draw result world' hpoll
  obtain ⟨rfl, hresult⟩ := hstill draw result world' hpoll
  exact ⟨h.gate, fun _ _ => h.quiet, fun _ => hresult⟩

/-! ## Writing to the table -/

theorem log_cons_replays {world : SfxWorld} (h : SfxHistory world) {event : SfxEvent}
    (hevent : ∀ id, event ≠ .replayed id) (later : List SfxEvent) (id : String)
    (earlier : List SfxEvent) (heq : event :: world.log = later ++ .replayed id :: earlier) :
    Unreplayed id earlier := by
  cases later with
  | nil =>
    cases heq
    exact absurd rfl (hevent id)
  | cons head rest => exact h.replays rest id earlier (List.cons.inj heq).2

/-- Only the journal of the request is unfinished, in a known state. -/
structure AtWork (task : SfxTask) (id : String) (state : RecoveryState) (world : SfxWorld) :
    Prop where
  gate : world.gate = some task
  history : SfxHistory world
  others : ∀ row ∈ world.journals, row.id ≠ id → row.unfinishedIn .sfx = false
  mine : ∀ row ∈ world.journals, row.id = id → row.state = state

variable {id : String} {state : RecoveryState}

theorem AtWork.settled (h : AtWork task id state world) (hterminal : state.isTerminal = true) :
    Settled world := by
  intro row hrow
  by_cases hid : row.id = id
  · unfold JournalRow.unfinishedIn
    rw [h.mine row hrow hid, hterminal, Bool.not_true, Bool.and_false]
  · exact h.others row hrow hid

variable {draft : JournalDraft} {now : ℤ}

theorem insert_ok {journals journals' : JournalTable}
    (h : journals.insert floatLength draft now = .ok journals') :
    validateJson floatLength draft.plan = .ok () ∧ validateJson floatLength draft.progress = .ok () ∧
      draft.id ∉ journals.map JournalRow.id ∧
      journals' = journals ++ [⟨draft.id, draft.domain, draft.operation, .planned, draft.plan,
        draft.progress, now, now, none⟩] := by
  unfold JournalTable.insert at h
  obtain ⟨_, hplan, h⟩ := bind_eq_ok.mp h
  obtain ⟨_, hprogress, h⟩ := bind_eq_ok.mp h
  obtain ⟨_, hfresh, h⟩ := bind_eq_ok.mp h
  cases h
  refine ⟨?_, ?_, ensure_eq_ok.mp hfresh, rfl⟩
  · cases hvalid : validateJson floatLength draft.plan with
    | error e =>
      rw [hvalid] at hplan
      cases hplan
    | ok _ => rfl
  · cases hvalid : validateJson floatLength draft.progress with
    | error e =>
      rw [hvalid] at hprogress
      cases hprogress
    | ok _ => rfl

theorem readEntry_insert {journals journals' : JournalTable}
    (h : journals.insert floatLength draft now = .ok journals') :
    ∃ row, journals'.readEntry floatLength draft.id = .ok (some row) ∧ row.id = draft.id ∧
      row.state = .planned := by
  obtain ⟨hplan, hprogress, hfresh, rfl⟩ := insert_ok h
  refine ⟨⟨draft.id, draft.domain, draft.operation, .planned, draft.plan, draft.progress, now, now,
    none⟩, ?_, rfl, rfl⟩
  have hnone : journals.find? (fun row => row.id = draft.id) = none := by
    rw [List.find?_eq_none]
    intro row hrow hid
    exact hfresh (List.mem_map.mpr ⟨row, hrow, of_decide_eq_true hid⟩)
  unfold JournalTable.readEntry
  rw [List.find?_append, hnone]
  simp only [Option.none_or, List.find?_cons, decide_true]
  unfold JournalRow.validate
  dsimp only
  rw [hplan, hprogress]
  rfl

theorem working_insert {journals' : JournalTable} (h : Holding task world)
    (hsettled : Settled world) (hdomain : draft.domain = .sfx)
    (hinsert : world.journals.insert floatLength draft now = .ok journals') :
    AtWork task draft.id .planned
      { world with journals := journals', log := [.created draft.id] ++ world.log } := by
  obtain ⟨-, -, hfresh, rfl⟩ := insert_ok hinsert
  have hold : ∀ row ∈ world.journals, row.id ≠ draft.id := by
    rintro row hrow heq
    exact hfresh (List.mem_map.mpr ⟨row, hrow, heq⟩)
  refine ⟨h.gate, ⟨?_, ?_, ?_, ?_⟩, ?_, ?_⟩
  · dsimp only
    rw [List.map_append, List.nodup_append]
    refine ⟨h.history.ids, List.nodup_singleton _, ?_⟩
    rintro id hid other hother rfl
    rw [List.map_singleton, List.mem_singleton] at hother
    exact hfresh ((show id = draft.id from hother) ▸ hid)
  · intro row hrow
    rcases List.mem_append.mp hrow with hrow | hrow
    · exact h.history.domain row hrow
    · rw [List.mem_singleton.mp hrow]
      exact hdomain
  · intro row hrow hunfinished
    rcases List.mem_append.mp hrow with hrow | hrow
    · rw [hsettled row hrow] at hunfinished
      cases hunfinished
    · rw [List.mem_singleton.mp hrow]
      intro other hother
      simp at hother
  · exact log_cons_replays h.history fun _ => SfxEvent.noConfusion
  · intro row hrow hid
    rcases List.mem_append.mp hrow with hrow | hrow
    · exact hsettled row hrow
    · rw [List.mem_singleton.mp hrow] at hid
      exact absurd rfl hid
  · intro row hrow hid
    rcases List.mem_append.mp hrow with hrow | hrow
    · exact absurd hid (hold row hrow)
    · rw [List.mem_singleton.mp hrow]

theorem ids_update (journals : JournalTable) (id : String) (expected next : RecoveryState)
    (progress : Json) (now : ℤ) :
    (journals.update id expected next progress now).map JournalRow.id
      = journals.map JournalRow.id := by
  unfold JournalTable.update
  rw [List.map_map]
  refine List.map_congr_left ?_
  intro row _
  rw [Function.comp_apply]
  split <;> rfl

variable {journals : JournalTable} {row : JournalRow} {progress : Json}

theorem mem_update {expected next : RecoveryState}
    (h : row ∈ journals.update id expected next progress now) :
    ∃ old ∈ journals, (old.id = id ∧ old.state = expected ∧ row = old.moveTo next progress now) ∨
      (¬ (old.id = id ∧ old.state = expected) ∧ row = old) := by
  obtain ⟨old, hold, heq⟩ := List.mem_map.mp h
  refine ⟨old, hold, ?_⟩
  split at heq
  · next hmatches => exact Or.inl ⟨hmatches.1, hmatches.2, heq.symm⟩
  · next hmatches => exact Or.inr ⟨hmatches, heq.symm⟩

theorem SfxHistory.update {expected next : RecoveryState} (h : SfxHistory world)
    (hexpected : expected.isTerminal = false) :
    SfxHistory { world with journals := world.journals.update id expected next progress now } := by
  refine ⟨?_, ?_, ?_, h.replays⟩
  · dsimp only
    rw [ids_update]
    exact h.ids
  · intro row hrow
    obtain ⟨old, hold, ⟨-, -, rfl⟩ | ⟨-, rfl⟩⟩ := mem_update hrow
    · exact h.domain old hold
    · exact h.domain _ hold
  · intro row hrow hunfinished
    obtain ⟨old, hold, ⟨-, hstate, rfl⟩ | ⟨-, rfl⟩⟩ := mem_update hrow
    · refine h.fresh old hold ?_
      unfold JournalRow.unfinishedIn
      rw [h.domain old hold, hstate, hexpected]
      rfl
    · exact h.fresh _ hold hunfinished

theorem AtWork.update {state next : RecoveryState} (h : AtWork task id state world)
    (hstate : state.isTerminal = false) :
    AtWork task id next
      { world with journals := world.journals.update id state next progress now } := by
  refine ⟨h.gate, h.history.update hstate, ?_, ?_⟩
  · intro row hrow hid
    obtain ⟨old, hold, ⟨hmine, -, rfl⟩ | ⟨-, rfl⟩⟩ := mem_update hrow
    · exact absurd hmine hid
    · exact h.others _ hold hid
  · intro row hrow hid
    obtain ⟨old, hold, ⟨-, -, rfl⟩ | ⟨hnot, rfl⟩⟩ := mem_update hrow
    · rfl
    · exact absurd ⟨hid, h.mine _ hold hid⟩ hnot

theorem readEntry_some (h : journals.readEntry floatLength id = .ok (some row)) :
    row ∈ journals ∧ row.id = id := by
  unfold JournalTable.readEntry at h
  split at h
  · cases h
  · next found hfound =>
    split at h
    · cases h
      exact ⟨List.mem_of_find?_eq_some hfound,
        of_decide_eq_true (List.find?_some (p := fun row : JournalRow => decide (row.id = id)) hfound)⟩
    · cases h

theorem transitionAnswer_applied {journals after : JournalTable} {expected : RecoveryState}
    (h : JournalTable.transitionAnswer floatLength journals after id expected = .ok (.applied row)) :
    row ∈ after ∧ row.id = id := by
  obtain ⟨current, hcurrent, h⟩ := bind_eq_ok.mp h
  split at h
  · cases current with
    | none => cases h
    | some found =>
      cases h
      exact readEntry_some hcurrent
  · cases h

/-! ## A mutation under its journal -/

/-- The request holds the gate; a recovery has to be asked for. -/
structure Broken (task : SfxTask) (world : SfxWorld) : Prop where
  gate : world.gate = some task
  history : SfxHistory world

/-- A request holds the gate, and nothing is unfinished. -/
structure Clear (task : SfxTask) (world : SfxWorld) : Prop where
  gate : world.gate = some task
  history : SfxHistory world
  settled : Settled world

theorem Clear.holding (h : Clear task world) : Holding task world :=
  ⟨h.gate, h.history, Or.inr h.settled⟩

theorem AtWork.clear (h : AtWork task id state world) (hterminal : state.isTerminal = true) :
    Clear task world :=
  ⟨h.gate, h.history, h.settled hterminal⟩

theorem AtWork.broken (h : AtWork task id state world) :
    Broken task world := ⟨h.gate, h.history⟩

/-- How a mutation ends: well with nothing unfinished, or with the flag set. -/
def Mutated {α : Type} (task : SfxTask) : Except SfxCoordinatorError α → SfxWorld → Prop
  | .ok _, world => Clear task world
  | .error _, world => Holding task world

theorem guarded_requireRecovery (h : Broken task world) (error : SfxCoordinatorError) :
    Guarded task (requireRecovery error : SfxFuture α) (Mutated task) world := by
  refine ⟨⟨h.history, fun hpoint => SfxPoint.noConfusion hpoint⟩, nofun, ?_⟩
  intro draw result world' hpoll
  cases hpoll
  refine ⟨h.gate, nofun, fun _ => ?_⟩
  exact ⟨h.gate, ⟨h.history.ids, h.history.domain, h.history.fresh, h.history.replays⟩, Or.inl rfl⟩

theorem guarded_journalCall {point : SfxPoint} {operation : String}
    {write : JournalTable → ℤ → Except JournalError JournalTable}
    {answer : JournalTable → JournalTable → Except JournalError α} {event : List SfxEvent}
    {Q : Except SfxCoordinatorError α → SfxWorld → Prop} (hgate : world.gate = some task)
    (hhistory : SfxHistory world) (hpoint : point ≠ .admission)
    (hdrop : sfxDrops point none → sfxContract.quiet (sfxLock.release task world))
    (hnothing : ∀ draw, sfxDrops point (some draw) → draw.done = false →
      sfxContract.quiet (sfxLock.release task world))
    (hrefused : ∀ now kind, write world.journals now = .error kind →
      Q (.error (.dependency operation)) world ∧ ∀ draw, sfxDrops point (some draw) →
        draw.done = true → sfxContract.quiet (sfxLock.release task world))
    (hlost : Q (.error (.dependency operation)) world)
    (hwritten : ∀ now journals, write world.journals now = .ok journals →
      (∀ draw, sfxDrops point (some draw) → draw.done = true → sfxContract.quiet
        (sfxLock.release task { world with journals := journals, log := event ++ world.log })) ∧
      Q ((answer world.journals journals).mapError fun _ => .dependency operation)
        { world with journals := journals, log := event ++ world.log } ∧
      (point ≠ .createJournal → Q (.error (.dependency operation))
        { world with journals := journals, log := event ++ world.log })) :
    Guarded task (journalCall point operation write answer event) Q world := by
  refine ⟨⟨hhistory, fun heq => absurd heq hpoint⟩, fun _ => hdrop, ?_⟩
  intro draw result world' hpoll
  rcases draw with now | ⟨done, now⟩ | id | files | folders | found | resolved | discarded | applied
  · dsimp only at hpoll
    cases hwrite : write world.journals now with
    | error kind =>
      rw [hwrite] at hpoll
      cases hpoll
      obtain ⟨hQ, hquiet⟩ := hrefused now kind hwrite
      exact ⟨hgate, fun _ hdrops => hquiet _ hdrops rfl, fun _ => hQ⟩
    | ok journals =>
      rw [hwrite] at hpoll
      cases hpoll
      obtain ⟨hquiet, hQ, -⟩ := hwritten now journals hwrite
      exact ⟨hgate, fun _ hdrops => hquiet _ hdrops rfl, fun _ => hQ⟩
  · cases done with
    | false =>
      cases hpoll
      exact ⟨hgate, fun _ hdrops => hnothing _ hdrops rfl, fun _ => hlost⟩
    | true =>
      dsimp only at hpoll
      cases hwrite : write world.journals now with
      | error kind =>
        rw [hwrite] at hpoll
        cases hpoll
        obtain ⟨hQ, hquiet⟩ := hrefused now kind hwrite
        exact ⟨hgate, fun _ hdrops => hquiet _ hdrops rfl, fun _ => hQ⟩
      | ok journals =>
        rw [hwrite] at hpoll
        cases hpoll
        obtain ⟨hquiet, -, hQ⟩ := hwritten now journals hwrite
        exact ⟨hgate, fun _ hdrops => hquiet _ hdrops rfl,
          fun hanswers => hQ fun hcreate => hanswers hcreate now rfl⟩
  all_goals cases hpoll

/-- What the creation of a journal may lead to. -/
def Created (task : SfxTask) (id : String) : Except SfxCoordinatorError JournalRow → SfxWorld → Prop
  | .ok row, world => AtWork task id .planned world ∧ row.id = id ∧ row.state = .planned
  | .error _, world => Clear task world

theorem guarded_createRecoveryJournal (h : Clear task world) (hdomain : draft.domain = .sfx) :
    Guarded task (createRecoveryJournal floatLength draft) (Created task draft.id) world := by
  have hquiet : sfxContract.quiet (sfxLock.release task world) := h.holding.quiet
  refine guarded_journalCall h.gate h.history SfxPoint.noConfusion (fun _ => hquiet)
    (fun _ _ _ => hquiet) (fun now kind _ => ⟨h, fun _ _ _ => hquiet⟩) h ?_
  intro now journals hinsert
  have hworking := working_insert h.holding h.settled hdomain hinsert
  refine ⟨?_, ?_, fun hnot => absurd rfl hnot⟩
  · intro draw hdrops hdone
    have hnot : draw.done = false := hdrops draw rfl
    rw [hdone] at hnot
    cases hnot
  · obtain ⟨row, hrow, hid, hstate⟩ := readEntry_insert hinsert
    rw [hrow]
    exact ⟨hworking, hid, hstate⟩

def Transitioned (task : SfxTask) (id : String) (next : RecoveryState) :
    Except SfxCoordinatorError JournalRow → SfxWorld → Prop
  | .ok row, world => AtWork task id next world ∧ row.id = id ∧ row.state = next
  | .error _, world => Broken task world

variable {next : RecoveryState}

theorem guarded_transition {current : JournalRow} (h : AtWork task id current.state world)
    (hid : current.id = id) (hstate : current.state.isTerminal = false)
    (hallows : current.state.allows next = true)
    (hprogress : validateJson floatLength progress = .ok ()) :
    Guarded task (transition floatLength current next progress) (Transitioned task id next)
      world := by
  subst hid
  have hcheck : JournalTable.checkTransition floatLength current.state next progress = .ok () := by
    unfold JournalTable.checkTransition
    rw [hprogress, show ensure (current.state.allows next = true)
      JournalError.invalidRecoveryTransition = .ok () from ensure_eq_ok.mpr hallows]
    rfl
  refine guarded_bind (R := fun result world' =>
    match result with
    | .ok answer => AtWork task current.id next world' ∧
      ∀ row, answer = .applied row → row.id = current.id ∧ row.state = next
    | .error _ => Broken task world') ?_ ?_ ?_
  · refine guarded_journalCall h.gate h.history SfxPoint.noConfusion ?_ ?_ ?_ h.broken ?_
    · rintro ⟨_, _, hmem, _⟩
      cases hmem
    · rintro draw ⟨_, _, hmem, hdone⟩ hnot
      cases hmem
      rw [hdone] at hnot
      cases hnot
    · intro now kind hwrite
      rw [hcheck] at hwrite
      cases hwrite
    · intro now journals hwrite
      rw [hcheck] at hwrite
      cases hwrite
      have hnext := @AtWork.update _ _ _ now progress _ next h hstate
      refine ⟨?_, ?_, fun _ => hnext.broken⟩
      · rintro draw ⟨hterminal, -⟩ -
        exact (hnext.clear hterminal).holding.quiet
      · cases hanswer : JournalTable.transitionAnswer floatLength world.journals
            (world.journals.update current.id current.state next progress now) current.id
            current.state with
        | error kind => exact hnext.broken
        | ok answer =>
          refine ⟨hnext, ?_⟩
          rintro row rfl
          obtain ⟨hrow, hid⟩ := transitionAnswer_applied hanswer
          exact ⟨hid, hnext.mine row hrow hid⟩
  · exact fun _ _ h => h
  · rintro answer world' ⟨hnext, hrow⟩
    cases answer with
    | conflict row => exact hnext.broken
    | applied row => exact ⟨hnext, hrow row rfl⟩

theorem AtWork.apply (h : AtWork task id state world) :
    AtWork task id state { world with log := .applied id :: world.log } := by
  refine ⟨h.gate, ⟨h.history.ids, h.history.domain, ?_, ?_⟩, h.others, h.mine⟩
  · intro row hrow hunfinished
    have hid : row.id = id := by
      by_contra hne
      rw [h.others row hrow hne] at hunfinished
      cases hunfinished
    intro other hother
    rw [List.takeWhile_cons, if_pos (by simp), List.mem_cons] at hother
    rcases hother with heq | hother
    · cases heq
      exact hid.symm
    · exact h.history.fresh row hrow hunfinished other hother
  · exact log_cons_replays h.history fun _ => SfxEvent.noConfusion

theorem guarded_applyEffects (h : AtWork task id state world) (mutation : SfxMutation) :
    Guarded task (applyEffects id mutation false)
      (fun result world' => (∃ answer, result = .ok answer) ∧ AtWork task id state world')
      world := by
  refine ⟨⟨h.history, SfxPoint.noConfusion⟩, fun _ hdrops => hdrops.elim, ?_⟩
  intro draw result world' hpoll
  cases draw with
  | applied answer =>
    cases hpoll
    exact ⟨h.gate, fun _ hdrops => hdrops.elim, fun _ => ⟨⟨answer, rfl⟩, h.apply⟩⟩
  | _ => cases hpoll

theorem guarded_finishMutation {applying : JournalRow} (h : AtWork task id .applying world)
    (hid : applying.id = id) (hstate : applying.state = .applying)
    (answer : Except SfxMutationFailure SfxMutationOutcome) :
    Guarded task (finishMutation floatLength applying answer) (Mutated task) world := by
  rw [← hstate] at h
  cases answer with
  | error failure =>
    rw [finishMutation]
    split
    · refine guarded_attempt_bind (guarded_transition h hid (by rw [hstate]; rfl)
        (by rw [hstate]; rfl) (validateJson_field (by decide) failure.code_short)) ?_
      intro result world' hresult
      cases result with
      | error e => exact guarded_requireRecovery hresult _
      | ok row => exact (hresult.1.clear rfl).holding
    · exact guarded_requireRecovery h.broken _
  | ok outcome =>
    refine guarded_attempt_bind (guarded_transition h hid (by rw [hstate]; rfl)
      (by rw [hstate]; rfl) (validateJson_field (by decide) (by decide))) ?_
    intro result world' hresult
    cases result with
    | error e => exact guarded_requireRecovery hresult e
    | ok row => exact hresult.1.clear rfl

theorem draftOf_ok {mutation : SfxMutation} (h : draftOf floatLength id mutation = .ok draft) :
    draft.domain = .sfx := by
  unfold draftOf at h
  split at h
  · cases h
  · next operation _ =>
    unfold JournalDraft.new at h
    cases hvalid : validateJson floatLength mutation.plan with
    | error e =>
      rw [hvalid] at h
      cases h
    | ok _ =>
      rw [hvalid] at h
      cases h
      rfl

theorem guarded_executeMutation (h : Clear task world) (mutation : SfxMutation) :
    Guarded task (executeMutation floatLength mutation) (Mutated task) world := by
  unfold executeMutation
  refine guarded_bind (R := fun _ world' => Clear task world') ?_ (fun _ _ h => h.holding) ?_
  · refine guarded_still h.holding SfxPoint.noConfusion ?_
    intro draw result world' hpoll
    cases draw with
    | fresh id =>
      cases hpoll
      exact ⟨rfl, h⟩
    | _ => cases hpoll
  · intro id world h
    refine guarded_ofExcept_bind (fun _ _ => h.holding) ?_
    intro draft hdraft
    refine guarded_bind (guarded_createRecoveryJournal h (draftOf_ok hdraft))
      (fun _ _ h => h.holding) ?_
    rintro planned world ⟨hworking, hid, hstate⟩
    rw [← hstate] at hworking
    refine guarded_attempt_bind (guarded_transition hworking hid (by rw [hstate]; rfl)
      (by rw [hstate]; rfl) (validateJson_field (by decide) (by decide))) ?_
    intro result world hresult
    cases result with
    | error e => exact guarded_requireRecovery hresult e
    | ok applying =>
      obtain ⟨hworking, happlying, hstate⟩ := hresult
      rw [← happlying] at hworking
      refine guarded_bind (guarded_applyEffects hworking mutation) ?_ ?_
      · rintro e world ⟨⟨answer, hanswer⟩, -⟩
        cases hanswer
      · rintro answer world ⟨-, hworking⟩
        exact guarded_finishMutation hworking rfl hstate answer

/-! ## Requests -/

theorem guarded_readFiles (h : Holding task world)
    (answer : SfxDraw → Option (Except SfxCoordinatorError α)) :
    Guarded task (readFiles answer) (fun _ => Holding task) world := by
  refine guarded_still h SfxPoint.noConfusion ?_
  intro draw result world' hpoll
  obtain ⟨found, _, heq⟩ := Option.map_eq_some_iff.mp hpoll
  cases heq
  exact ⟨rfl, h⟩

theorem guarded_discardUpload {K : SfxWorld → Prop} (h : Holding task world) (hkept : K world)
    (staged : SfxPath) : Guarded task (discardUpload staged) (fun _ => K) world := by
  refine guarded_still h SfxPoint.noConfusion ?_
  intro draw result world' hpoll
  cases draw with
  | discarded answer =>
    cases hpoll
    exact ⟨rfl, hkept⟩
  | _ => cases hpoll

theorem guarded_discardUploads (h : Holding task world) (uploads : List StagedSfxUpload) :
    Guarded task (discardUploads uploads) (fun _ => Holding task) world := by
  induction uploads generalizing world with
  | nil => exact h
  | cons upload rest ih =>
    refine guarded_bind (guarded_discardUpload h h upload.staged) (fun _ _ h => h) ?_
    exact fun _ world h => ih h

theorem guarded_discardUploads_fail (h : Holding task world) (uploads : List StagedSfxUpload)
    (error : SfxCoordinatorError) :
    Guarded task (discardUploads uploads >>= fun _ => (fail error : SfxFuture α)) (Mutated task)
      world :=
  guarded_bind (guarded_discardUploads h uploads) (fun _ _ h => h) fun _ _ h => h

theorem guarded_discardAfterError (h : Holding task world) (upload : StagedSfxUpload)
    (rest : List StagedSfxUpload) (error : SfxCoordinatorError) :
    Guarded task (discardAfterError upload rest error) (Mutated task) world := by
  refine guarded_bind (R := fun _ => Holding task) ?_ (fun _ _ h => h) ?_
  · refine guarded_still h SfxPoint.noConfusion ?_
    intro draw result world' hpoll
    cases hpoll
    exact ⟨rfl, h⟩
  · intro required world h
    split
    · refine guarded_bind (guarded_discardUpload h h upload.staged) (fun _ _ h => h) ?_
      exact fun _ world h => guarded_discardUploads_fail h rest error
    · exact guarded_discardUploads_fail h rest error

theorem guarded_publishStaged (h : Clear task world) (results : List SfxUploadBatchItem)
    (policy : SfxUploadConflictPolicy) (uploads : List StagedSfxUpload) :
    Guarded task (publishStaged floatLength results policy uploads) (Mutated task) world := by
  induction uploads generalizing results world with
  | nil => exact h
  | cons upload rest ih =>
    refine guarded_bind (R := fun _ => Clear task) ?_ (fun _ _ h => h.holding) ?_
    · refine guarded_still h.holding SfxPoint.noConfusion ?_
      intro draw result world' hpoll
      cases draw with
      | resolved answer =>
        cases hpoll
        exact ⟨rfl, h⟩
      | _ => cases hpoll
    · intro resolution world h
      rcases resolution with failure | ⟨destination, replaceExisting⟩ | _
      · exact guarded_discardUploads_fail h.holding (upload :: rest) _
      · refine guarded_attempt_bind (guarded_executeMutation h _) ?_
        intro result world hresult
        rcases result with error | outcome
        · exact guarded_discardAfterError hresult upload rest error
        · have hother : Guarded task (storeFlag >>= fun _ => discardUploads rest >>= fun _ =>
              (fail .recoveryConflict : SfxFuture (List SfxUploadBatchItem))) (Mutated task)
              world := by
            refine guarded_bind (R := fun _ => Holding task) ?_ (fun _ _ h => h) ?_
            · refine ⟨⟨hresult.history, SfxPoint.noConfusion⟩, nofun, ?_⟩
              intro draw result world' hpoll
              cases hpoll
              refine ⟨hresult.gate, nofun, fun _ => ⟨hresult.gate, ?_, Or.inl rfl⟩⟩
              exact ⟨hresult.history.ids, hresult.history.domain, hresult.history.fresh,
                hresult.history.replays⟩
            · exact fun _ world h => guarded_discardUploads_fail h rest _
          cases outcome with
          | file file => exact ih hresult _
          | folder folder | deleted => exact hother
      · refine guarded_bind (guarded_discardUpload h.holding h upload.staged)
          (fun _ _ h => h.holding) ?_
        intro discarded world h
        cases discarded with
        | error failure => exact guarded_discardUploads_fail h.holding rest _
        | ok _ => exact ih h _

/-! ## The start -/

/-- The start holds the gate, and there is no coordinator yet. -/
structure StartHolding (world : SfxWorld) : Prop where
  gate : world.gate = some .startup
  serving : world.serving = false
  history : SfxHistory world

theorem StartHolding.quiet (h : StartHolding world) :
    sfxContract.quiet (sfxLock.release .startup world) := by
  refine quiet_release h.history ?_
  intro hserving
  rw [h.serving] at hserving
  cases hserving

/-- The journals of `pending` are as they were loaded, and all that are unfinished. -/
structure Starting (pending : List JournalRow) (world : SfxWorld) : Prop extends
    StartHolding world where
  loaded : ∀ row ∈ pending, row ∈ world.journals
  distinct : (pending.map JournalRow.id).Nodup
  covered : ∀ row ∈ world.journals, row.unfinishedIn .sfx = true → row ∈ pending

/-- The journal of an id is being replayed, and those of `rest` are still to be. -/
structure Replaying (id : String) (rest : List JournalRow) (world : SfxWorld) : Prop extends
    StartHolding world where
  present : id ∈ world.journals.map JournalRow.id
  mine : ∀ row ∈ world.journals, row.id = id → row.state = .applying
  loaded : ∀ row ∈ rest, row ∈ world.journals ∧ row.id ≠ id
  distinct : (rest.map JournalRow.id).Nodup
  covered : ∀ row ∈ world.journals, row.unfinishedIn .sfx = true → row.id = id ∨ row ∈ rest

theorem eq_of_id (h : (journals.map JournalRow.id).Nodup) {row other : JournalRow}
    (hrow : row ∈ journals) (hother : other ∈ journals) (hid : row.id = other.id) :
    row = other := List.inj_on_of_nodup_map h hrow hother hid

theorem guarded_replayTransition (h : StartHolding world) {current : JournalRow} (progress : Json)
    (hstate : current.state.isTerminal = false) :
    Guarded .startup (transition floatLength current next progress)
      (fun result world' => StartHolding world' ∧ ∀ row, result = .ok row → ∃ now,
        world' = { world with
          journals := world.journals.update current.id current.state next progress now } ∧
        row ∈ world'.journals ∧ row.id = current.id) world := by
  have hupdate : ∀ now, StartHolding { world with
      journals := world.journals.update current.id current.state next progress now } :=
    fun now => ⟨h.gate, h.serving, h.history.update hstate⟩
  refine guarded_bind (R := fun result world' => StartHolding world' ∧
    ∀ row, result = .ok (.applied row) → ∃ now, world' = { world with
      journals := world.journals.update current.id current.state next progress now } ∧
      row ∈ world'.journals ∧ row.id = current.id) ?_ ?_ ?_
  · refine guarded_journalCall h.gate h.history SfxPoint.noConfusion (fun _ => h.quiet)
      (fun _ _ _ => h.quiet) (fun _ _ _ => ⟨⟨h, nofun⟩, fun _ _ _ => h.quiet⟩) ⟨h, nofun⟩ ?_
    intro now journals hwrite
    have hjournals : journals
        = world.journals.update current.id current.state next progress now := by
      cases hcheck : JournalTable.checkTransition floatLength current.state next progress with
      | error e =>
        rw [hcheck] at hwrite
        cases hwrite
      | ok _ =>
        rw [hcheck] at hwrite
        cases hwrite
        rfl
    subst hjournals
    refine ⟨fun _ _ _ => (hupdate now).quiet, ⟨hupdate now, ?_⟩, fun _ => ⟨hupdate now, nofun⟩⟩
    intro row hrow
    refine ⟨now, rfl, ?_⟩
    cases hanswer : JournalTable.transitionAnswer floatLength world.journals
        (world.journals.update current.id current.state next progress now) current.id
        current.state with
    | error kind =>
      rw [hanswer] at hrow
      cases hrow
    | ok answer =>
      rw [hanswer] at hrow
      cases hrow
      exact transitionAnswer_applied hanswer
  · rintro e world' ⟨h, -⟩
    exact ⟨h, nofun⟩
  · rintro answer world' ⟨h, hrow⟩
    cases answer with
    | conflict row => exact ⟨h, nofun⟩
    | applied row =>
      refine ⟨h, ?_⟩
      rintro row' heq
      cases heq
      exact hrow row rfl

variable {rest : List JournalRow}

theorem guarded_beginReplay (h : Starting (row :: rest) world) :
    Guarded .startup (beginReplay floatLength row)
      (fun result world' => StartHolding world' ∧ ∀ applying, result = .ok applying →
        applying.id = row.id ∧ applying.state = .applying ∧ Replaying row.id rest world')
      world := by
  have hrow := h.loaded row List.mem_cons_self
  have hdistinct := List.nodup_cons.mp h.distinct
  have hother : ∀ other ∈ rest, other.id ≠ row.id := by
    rintro other hother heq
    exact hdistinct.1 (List.mem_map.mpr ⟨other, hother, heq⟩)
  have hloaded : ∀ other ∈ rest, other ∈ world.journals :=
    fun other hother => h.loaded other (List.mem_cons_of_mem _ hother)
  unfold beginReplay
  split
  · next hplanned =>
    refine (guarded_replayTransition h.toStartHolding _ (by rw [hplanned]; rfl)).mono ?_
    rintro result world' ⟨hholding, hresult⟩
    refine ⟨hholding, ?_⟩
    rintro applying rfl
    obtain ⟨now, rfl, hmem, hid⟩ := hresult applying rfl
    have hmoved : ∀ other ∈ world.journals.update row.id row.state .applying
        (stageJson "startup_replay") now, other.id = row.id → other.state = .applying := by
      intro other hother hsame
      obtain ⟨old, hold, ⟨-, -, rfl⟩ | ⟨hnot, rfl⟩⟩ := mem_update hother
      · rfl
      · have heq := eq_of_id h.history.ids hold hrow hsame
        exact absurd ⟨hsame, congrArg JournalRow.state heq⟩ hnot
    refine ⟨hid, hmoved applying hmem hid, hholding, ?_, hmoved, ?_, hdistinct.2, ?_⟩
    · dsimp only
      rw [ids_update]
      exact List.mem_map_of_mem hrow
    · intro other hmember
      refine ⟨List.mem_map.mpr ⟨other, hloaded other hmember, ?_⟩, hother other hmember⟩
      exact if_neg fun hmatches => hother other hmember hmatches.1
    · intro other hmember hunfinished
      obtain ⟨old, hold, ⟨hsame, -, rfl⟩ | ⟨-, rfl⟩⟩ := mem_update hmember
      · exact Or.inl hsame
      · rcases List.mem_cons.mp (h.covered _ hold hunfinished) with rfl | hrest
        · exact Or.inl rfl
        · exact Or.inr hrest
  · next happlying =>
    refine ⟨h.toStartHolding, ?_⟩
    rintro applying heq
    cases heq
    refine ⟨rfl, happlying, h.toStartHolding, List.mem_map_of_mem hrow, ?_, ?_, hdistinct.2, ?_⟩
    · intro other hmember hsame
      rw [eq_of_id h.history.ids hmember hrow hsame]
      exact happlying
    · exact fun other hmember => ⟨hloaded other hmember, hother other hmember⟩
    · intro other hmember hunfinished
      rcases List.mem_cons.mp (h.covered other hmember hunfinished) with rfl | hrest
      · exact Or.inl rfl
      · exact Or.inr hrest
  · exact ⟨h.toStartHolding, nofun⟩

theorem Replaying.apply (h : Replaying id rest world) :
    Replaying id rest { world with log := .replayed id :: world.log } := by
  obtain ⟨row, hrow, hid⟩ := List.mem_map.mp h.present
  have hunfinished : row.unfinishedIn .sfx = true := by
    unfold JournalRow.unfinishedIn
    rw [h.history.domain row hrow, h.mine row hrow hid]
    rfl
  have hfresh := h.history.fresh row hrow hunfinished
  rw [hid] at hfresh
  refine ⟨⟨h.gate, h.serving, h.history.ids, h.history.domain, ?_, ?_⟩, h.present, h.mine, h.loaded,
    h.distinct, h.covered⟩
  · intro other hother hopen written hwritten
    rw [List.takeWhile_cons, if_pos (by simp), List.mem_cons] at hwritten
    rcases hwritten with heq | hwritten
    · cases heq
    · exact h.history.fresh other hother hopen written hwritten
  · intro later other earlier heq
    cases later with
    | nil =>
      cases heq
      exact hfresh
    | cons head tail => exact h.history.replays tail other earlier (List.cons.inj heq).2

theorem Replaying.settle (h : Replaying id rest world) (hnext : next.isTerminal = true)
    (progress : Json) (now : ℤ) :
    Starting rest { world with
      journals := world.journals.update id .applying next progress now } := by
  refine ⟨⟨h.gate, h.serving, h.history.update rfl⟩, ?_, h.distinct, ?_⟩
  · intro row hrow
    obtain ⟨hloaded, hother⟩ := h.loaded row hrow
    exact List.mem_map.mpr ⟨row, hloaded, if_neg fun hmatches => hother hmatches.1⟩
  · intro row hrow hunfinished
    obtain ⟨old, hold, ⟨-, -, rfl⟩ | ⟨hnot, rfl⟩⟩ := mem_update hrow
    · unfold JournalRow.unfinishedIn at hunfinished
      rw [show (old.moveTo next progress now).state = next from rfl, hnext] at hunfinished
      rw [Bool.not_true, Bool.and_false] at hunfinished
      cases hunfinished
    · rcases h.covered _ hold hunfinished with hid | hrest
      · exact absurd ⟨hid, h.mine _ hold hid⟩ hnot
      · exact hrest

theorem guarded_settleTransition {applying : JournalRow} (h : Replaying applying.id rest world)
    (hstate : applying.state = .applying) (hnext : next.isTerminal = true) (progress : Json) :
    Guarded .startup (transition floatLength applying next progress >>= fun _ =>
        (pure () : SfxFuture Unit))
      (fun result world' => StartHolding world' ∧ (result = .ok () → Starting rest world'))
      world := by
  refine guarded_bind (guarded_replayTransition h.toStartHolding progress (by rw [hstate]; rfl))
    ?_ ?_
  · rintro e world' ⟨h, -⟩
    exact ⟨h, nofun⟩
  · rintro row world' ⟨hholding, hrow⟩
    obtain ⟨now, rfl, -⟩ := hrow row rfl
    rw [hstate] at hholding ⊢
    exact ⟨hholding, fun _ => h.settle hnext progress now⟩

theorem guarded_settleReplay {applying : JournalRow} (h : Replaying applying.id rest world)
    (hstate : applying.state = .applying) (answer : Except SfxMutationFailure SfxMutationOutcome) :
    Guarded .startup (settleReplay floatLength applying answer)
      (fun result world' => StartHolding world' ∧ (result = .ok () → Starting rest world'))
      world := by
  cases answer with
  | ok outcome => exact guarded_settleTransition h hstate rfl _
  | error failure =>
    rw [settleReplay]
    split
    · exact guarded_settleTransition h hstate rfl _
    · exact ⟨h.toStartHolding, nofun⟩

theorem guarded_replayEntry (h : Starting (row :: rest) world) :
    Guarded .startup (replayEntry floatLength row)
      (fun result world' => StartHolding world' ∧ (result = .ok () → Starting rest world'))
      world := by
  refine guarded_ofExcept_bind (fun _ _ => ⟨h.toStartHolding, nofun⟩) ?_
  intro mutation _
  refine guarded_bind (guarded_beginReplay h) (fun _ _ h => ⟨h.1, nofun⟩) ?_
  rintro applying world ⟨-, happlying⟩
  obtain ⟨hid, hstate, hreplaying⟩ := happlying applying rfl
  rw [← hid] at hreplaying
  refine guarded_bind (R := fun _ => Replaying applying.id rest) ?_
    (fun _ _ h => ⟨h.toStartHolding, nofun⟩) ?_
  · refine ⟨⟨hreplaying.history, SfxPoint.noConfusion⟩, fun _ hdrops => hdrops.elim, ?_⟩
    intro draw result world' hpoll
    cases draw with
    | applied answer =>
      cases hpoll
      exact ⟨hreplaying.gate, fun _ hdrops => hdrops.elim, fun _ => hreplaying.apply⟩
    | _ => cases hpoll
  · exact fun answer world h => guarded_settleReplay h hstate answer

theorem guarded_replayEntries {pending : List JournalRow} (h : Starting pending world) :
    Guarded .startup (replayEntries floatLength pending)
      (fun result world' => StartHolding world' ∧ (result = .ok () → Settled world')) world := by
  induction pending generalizing world with
  | nil =>
    refine ⟨h.toStartHolding, ?_⟩
    intro _ row hrow
    by_contra hunfinished
    exact List.not_mem_nil (h.covered row hrow (Bool.eq_true_of_not_eq_false hunfinished))
  | cons row rest ih =>
    refine guarded_bind (guarded_replayEntry h) (fun _ _ h => ⟨h.1, nofun⟩) ?_
    rintro ⟨⟩ world ⟨-, hnext⟩
    exact ih (hnext rfl)

theorem unfinished_ok {rows : List JournalRow} (h : journals.unfinished floatLength .sfx = .ok rows) :
    rows.Perm (journals.filter (JournalRow.unfinishedIn .sfx)) := by
  unfold JournalTable.unfinished at h
  obtain ⟨_, hlength, h⟩ := bind_eq_ok.mp h
  obtain ⟨_, _, h⟩ := bind_eq_ok.mp h
  cases h
  have hlength := ensure_eq_ok.mp hlength
  rw [List.length_take] at hlength
  rw [List.take_of_length_le (by omega)]
  exact List.perm_insertionSort _ _

theorem guarded_startCoordinator (h : StartHolding world) :
    Guarded .startup (startCoordinator floatLength)
      (fun _ world' => sfxContract.quiet (sfxLock.release .startup world')) world := by
  refine guarded_bind (R := fun result world' => StartHolding world' ∧
    (result = .ok () → Settled world')) ?_ (fun _ _ h => h.1.quiet) ?_
  · refine guarded_bind (R := fun result world' => StartHolding world' ∧
      ∀ pending, result = .ok pending → Starting pending world') ?_
      (fun _ _ h => ⟨h.1, nofun⟩) ?_
    · refine ⟨⟨h.history, SfxPoint.noConfusion⟩, fun _ _ => h.quiet, ?_⟩
      intro draw result world' hpoll
      cases draw with
      | go now =>
        cases hpoll
        refine ⟨h.gate, fun _ _ => h.quiet, fun _ => ⟨h, ?_⟩⟩
        intro pending hpending
        cases hload : world.journals.unfinished floatLength .sfx with
        | error e =>
          rw [hload] at hpending
          cases hpending
        | ok rows =>
          rw [hload] at hpending
          cases hpending
          have hperm := unfinished_ok hload
          refine ⟨h, ?_, ?_, ?_⟩
          · exact fun row hrow => (List.mem_filter.mp (hperm.mem_iff.mp hrow)).1
          · rw [(hperm.map JournalRow.id).nodup_iff]
            exact h.history.ids.sublist (List.filter_sublist.map _)
          · exact fun row hrow hopen => hperm.mem_iff.mpr (List.mem_filter.mpr ⟨hrow, hopen⟩)
      | lost done now =>
        cases hpoll
        exact ⟨h.gate, fun _ _ => h.quiet, fun _ => ⟨h, nofun⟩⟩
      | _ => cases hpoll
    · rintro pending world ⟨-, hstarting⟩
      refine guarded_bind (guarded_replayEntries (hstarting pending rfl))
        (fun _ _ h => ⟨h.1, nofun⟩) ?_
      rintro ⟨⟩ world ⟨h, hsettled⟩
      refine ⟨⟨h.history, SfxPoint.noConfusion⟩, fun _ _ => h.quiet, ?_⟩
      intro draw result world' hpoll
      cases draw with
      | discarded answer =>
        cases hpoll
        exact ⟨h.gate, fun _ _ => h.quiet, fun _ => ⟨h, fun _ => hsettled rfl⟩⟩
      | _ => cases hpoll
  · rintro ⟨⟩ world ⟨h, hsettled⟩
    refine ⟨⟨h.history, SfxPoint.noConfusion⟩, nofun, ?_⟩
    intro draw result world' hpoll
    cases hpoll
    refine ⟨h.gate, nofun, fun _ => quiet_release ?_ fun _ => Or.inr (hsettled rfl)⟩
    exact ⟨h.history.ids, h.history.domain, h.history.fresh, h.history.replays⟩

/-! ## Runs -/

theorem guarded_admission (h : Holding task world) :
    Guarded task (loadFlag .admission >>= fun required =>
        if required = true then (fail .recoveryConflict : SfxFuture Unit) else pure ())
      (Mutated task) world := by
  have hsettled : world.recoveryRequired = false → Settled world := by
    intro hdown
    rcases h.settled with hup | hsettled
    · rw [hdown] at hup
      cases hup
    · exact hsettled
  refine guarded_bind (R := fun result world' => world' = world ∧
    result = .ok world.recoveryRequired) ?_ ?_ ?_
  · refine guarded_still h (fun _ => hsettled) ?_
    intro draw result world' hpoll
    cases hpoll
    exact ⟨rfl, rfl, rfl⟩
  · rintro e world' ⟨-, heq⟩
    cases heq
  · rintro required world' ⟨rfl, heq⟩
    cases heq
    cases hflag : world'.recoveryRequired with
    | true => exact h
    | false => exact ⟨h.gate, h.history, hsettled hflag⟩

/-- A request leaves everything alone until it has the gate, and then starts with nothing
unfinished. -/
theorem outside_beginAccess {f : Unit → SfxFuture SfxResponse}
    (hf : ∀ world, Clear task world → Guarded task (f ()) (fun _ => Holding task) world) :
    Future.Outside sfxLock sfxContract task (beginAccess task >>= f) := by
  refine ⟨Or.inl rfl, ?_⟩
  intro draw required world world' hpoll
  cases hpoll
  refine Or.inl ⟨rfl, ?_⟩
  cases world.recoveryRequired with
  | true => trivial
  | false =>
    refine ⟨Or.inr rfl, ?_⟩
    intro draw locked world world' hpoll
    dsimp only at hpoll
    split at hpoll
    · next hfree =>
      cases hpoll
      refine Or.inr ⟨hfree.2, rfl, ?_, ?_⟩
      · show (if some task = some task then _ else _) = world
        rw [if_pos rfl, ← hfree.2]
      · rintro ⟨hhistory, hsettled⟩
        have h : Holding task { world with gate := some task } :=
          ⟨rfl, ⟨hhistory.ids, hhistory.domain, hhistory.fresh, hhistory.replays⟩,
            hsettled hfree.1⟩
        refine Inside.bind ((guarded_admission h).mono ?_)
        intro result world' hresult
        cases result with
        | error e => exact hresult.quiet
        | ok _ => exact (hf world' hresult).mono fun _ _ h => h.quiet
    · cases hpoll

theorem outside_readFor (answer : SfxDraw → Option (Except SfxCoordinatorError α))
    (response : α → SfxResponse) :
    Future.Outside sfxLock sfxContract task (readFor task answer response) := by
  refine outside_beginAccess fun world h => ?_
  exact guarded_bind (guarded_readFiles h.holding answer) (fun _ _ h => h) fun _ _ h => h

theorem bind_assoc {γ : Type} (future : SfxFuture α) (f : α → SfxFuture β) (g : β → SfxFuture γ) :
    future >>= f >>= g = future >>= fun a => f a >>= g := by
  induction future with
  | ready result => cases result <;> rfl
  | point label poll next ih => exact congrArg (Future.point label poll) (funext ih)

theorem outside_mutateFor (mutation : SfxMutation)
    (expected : SfxMutationOutcome → Except SfxCoordinatorError SfxResponse) :
    Future.Outside sfxLock sfxContract task (mutateFor floatLength task mutation expected) := by
  unfold mutateFor mutate
  rw [bind_assoc]
  refine outside_beginAccess fun world h => ?_
  refine guarded_bind (guarded_executeMutation h mutation) (fun _ _ h => h) ?_
  intro outcome world h
  exact h.holding

theorem outside_request (request : SfxRequest) :
    Future.Outside sfxLock sfxContract task (request.future floatLength task) := by
  cases request with
  | listFiles | listFolders | listDirectory path | targetExists path => exact outside_readFor _ _
  | createFolder path | renameFolder source destination | deleteFolder path recursive
  | moveFile source destination | deleteFile path => exact outside_mutateFor _ _
  | publishUploads uploads policy =>
    refine outside_beginAccess fun world h => ?_
    refine guarded_bind (guarded_publishStaged h [] policy uploads) (fun _ _ h => h) ?_
    intro items world h
    exact h.holding

theorem poolInvariant_beginProcess {world : SfxWorld} (h : SfxHistory world) :
    PoolInvariant sfxLock sfxContract (beginProcess floatLength world) := by
  have hstart : StartHolding (beginProcess floatLength world).shared :=
    ⟨rfl, rfl, h.ids, h.domain, h.fresh, h.replays⟩
  refine ⟨nofun, ?_, ?_⟩
  · rintro task heq
    cases heq
    exact ⟨startCoordinator floatLength, rfl, guarded_startCoordinator hstart⟩
  · intro task future hother hfuture
    have hne : task ≠ .startup := fun heq => hother (congrArg some heq.symm)
    have hnone : (beginProcess floatLength world).tasks task = none := if_neg hne
    rw [hnone] at hfuture
    cases hfuture

theorem history_of_invariant {pool : SfxPool} (h : PoolInvariant sfxLock sfxContract pool) :
    SfxHistory pool.shared := by
  cases hgate : pool.shared.gate with
  | none => exact (h.quiet hgate).1
  | some task =>
    obtain ⟨future, -, hinside⟩ := h.inside task hgate
    cases future with
    | ready result =>
      have hquiet : SfxHistory (sfxLock.release task pool.shared) := hinside.1
      have hrelease : sfxLock.release task pool.shared = { pool.shared with gate := none } :=
        if_pos hgate
      rw [hrelease] at hquiet
      exact ⟨hquiet.ids, hquiet.domain, hquiet.fresh, hquiet.replays⟩
    | point label poll next => exact hinside.1.1

theorem history_empty : SfxHistory emptySfxWorld := by
  refine ⟨List.nodup_nil, nofun, nofun, ?_⟩
  intro later id earlier heq
  cases later <;> cases heq

/-- No request is admitted by its next step while a journal is unfinished, and no journal was
replayed over what a later request wrote. -/
structure NoWriteWhileUnfinished (pool : SfxPool) : Prop where
  admission : ∀ task, ∀ poll : SfxDraw → SfxWorld → Option (Except SfxCoordinatorError Bool × SfxWorld),
    ∀ next, pool.tasks task = some (.point .admission poll next) →
      pool.shared.recoveryRequired = false → Settled pool.shared
  replays : ∀ later id earlier, pool.shared.log = later ++ .replayed id :: earlier →
    Unreplayed id earlier

theorem poolInvariant_sfxSystem_step {pool pool' : SfxPool}
    {event : Event SfxTask SfxPoint SfxDraw SfxWorld SfxCoordinatorError SfxResponse}
    (h : PoolInvariant sfxLock sfxContract pool)
    (hstep : (sfxSystem floatLength).step pool event pool')
    (hpermitted : Permitted sfxContract pool event) :
    PoolInvariant sfxLock sfxContract pool' := by
  refine poolInvariant_step ?_ ?_ h hstep hpermitted
  · rintro world task future ⟨-, -, request, rfl⟩
    exact outside_request request
  · exact fun pool h => poolInvariant_beginProcess (history_of_invariant h)

theorem noWrite_of_invariant {pool : SfxPool} (h : PoolInvariant sfxLock sfxContract pool) :
    NoWriteWhileUnfinished pool := by
  refine ⟨?_, (history_of_invariant h).replays⟩
  intro task poll next htask
  have hfree : ¬ sfxContract.free .admission := by
    rintro (heq | heq) <;> cases heq
  exact (h.check htask hfree).2 rfl

end

inductive SfxScript where
  | request (number : ℕ) (request : SfxRequest)
  | poll (task : SfxTask) (draw : SfxDraw)
  | drop (task : SfxTask)
  | finish (task : SfxTask)
  | restart

def noFloats : BitVec 64 → ℕ := fun _ => 0

def SfxScript.exec (pool : SfxPool) : SfxScript → Option SfxPool
  | .request number asked =>
    if pool.shared.serving = true ∧ (pool.tasks (.request number)).isNone = true then
      some (pool.set pool.shared (.request number)
        (some (asked.future noFloats (.request number))))
    else none
  | .poll task draw => pool.poll task draw
  | .drop task => pool.drop sfxLock task
  | .finish task => pool.finish sfxLock task
  | .restart => some (beginProcess noFloats pool.shared)

def SfxScript.event :
    SfxScript → Event SfxTask SfxPoint SfxDraw SfxWorld SfxCoordinatorError SfxResponse
  | .request number asked => .start (.request number) (asked.future noFloats (.request number))
  | .poll task draw => .poll task draw
  | .drop task => .drop task none
  | .finish task => .finish task
  | .restart => .restart

theorem step_exec {pool pool' : SfxPool} {script : SfxScript}
    (hexec : script.exec pool = some pool') :
    (sfxSystem noFloats).step pool script.event pool' := by
  cases script with
  | request number asked =>
    rw [SfxScript.exec] at hexec
    split at hexec
    · next hnew =>
      cases hexec
      exact ⟨Option.isNone_iff_eq_none.mp hnew.2, ⟨hnew.1, SfxTask.noConfusion, asked, rfl⟩, rfl⟩
    · cases hexec
  | poll task draw => exact step_poll hexec
  | drop task => exact step_drop hexec
  | finish task => exact step_finish hexec
  | restart =>
    cases hexec
    rfl

/-- The run that is written down, as far as it goes. -/
def scriptRun : SfxPool → List SfxScript →
    List (Event SfxTask SfxPoint SfxDraw SfxWorld SfxCoordinatorError SfxResponse × SfxPool)
  | _, [] => []
  | pool, script :: rest =>
    match script.exec pool with
    | none => []
    | some pool' => (script.event, pool') :: scriptRun pool' rest

theorem isRun_scriptRun (pool : SfxPool) (script : List SfxScript) :
    (sfxSystem noFloats).IsRun pool (scriptRun pool script) := by
  induction script generalizing pool with
  | nil => trivial
  | cons head rest ih =>
    rw [scriptRun]
    split
    · trivial
    · next pool' hexec => exact ⟨step_exec hexec, ih pool'⟩

def SfxScript.calm : SfxScript → Bool
  | .poll _ (.lost _ _) => false
  | .drop _ => false
  | _ => true

theorem permitted_calm (pool : SfxPool) {script : SfxScript} (h : script.calm = true) :
    Permitted sfxContract pool script.event := by
  cases script with
  | poll task draw =>
    rintro β label poll next - - now rfl
    cases h
  | drop task => cases h
  | request number asked | finish task | restart => trivial

theorem permitted_scriptRun (pool : SfxPool) {script : List SfxScript}
    (h : ∀ entry ∈ script, entry.calm = true) :
    ∀ step ∈ Transition.System.steps pool (scriptRun pool script),
      Permitted sfxContract step.1 step.2.1 := by
  induction script generalizing pool with
  | nil => exact fun step hstep => absurd hstep List.not_mem_nil
  | cons head rest ih =>
    rw [scriptRun]
    split
    · exact fun step hstep => absurd hstep List.not_mem_nil
    · next pool' hexec =>
      intro step hstep
      rcases List.mem_cons.mp hstep with rfl | hstep
      · exact permitted_calm pool (h head List.mem_cons_self)
      · exact ih pool' (fun entry hentry => h entry (List.mem_cons_of_mem _ hentry)) step hstep

theorem reachable_script {pool pool' : SfxPool} (h : (sfxSystem noFloats).Reachable pool)
    (script : List SfxScript) (hscript : script.foldlM SfxScript.exec pool = some pool') :
    (sfxSystem noFloats).Reachable pool' := by
  induction script generalizing pool with
  | nil =>
    cases hscript
    exact h
  | cons head rest ih =>
    rw [List.foldlM_cons] at hscript
    obtain ⟨next, hnext, hrest⟩ := Option.bind_eq_some_iff.mp hscript
    exact ih (h.step (step_exec hnext)) hrest

def bellPath : SfxPath := ⟨"bell.wav".toList, by decide⟩

def stagedBell : StagedSfxUpload := ⟨bellPath, ⟨".upload".toList, by decide⟩⟩

def bellRecord : SfxFileRecord := ⟨"bell.wav", bellPath, 1, 0⟩

def quietStart : List SfxScript :=
  [.poll .startup (.go 0), .poll .startup (.discarded (.ok ())), .poll .startup (.go 0),
    .finish .startup]

/-- The deletion of a file is gone while its files are asked for; an upload under the same name
goes through; and the next start replays the deletion. -/
def lostDeletion : List SfxScript :=
  quietStart ++
  [.request 1 (.deleteFile bellPath), .poll (.request 1) (.go 0), .poll (.request 1) (.go 0),
    .poll (.request 1) (.go 0), .poll (.request 1) (.fresh "1"), .poll (.request 1) (.go 0),
    .poll (.request 1) (.go 0), .drop (.request 1),
    .request 2 (.publishUploads [stagedBell] .rename), .poll (.request 2) (.go 0),
    .poll (.request 2) (.go 0), .poll (.request 2) (.go 0),
    .poll (.request 2) (.resolved (.ok (.publish bellPath false))),
    .poll (.request 2) (.fresh "2"), .poll (.request 2) (.go 0), .poll (.request 2) (.go 0),
    .poll (.request 2) (.applied (.ok (.file bellRecord))), .poll (.request 2) (.go 0),
    .finish (.request 2), .restart, .poll .startup (.go 0),
    .poll .startup (.applied (.ok .deleted))]

theorem log_lostDeletion :
    (lostDeletion.foldlM SfxScript.exec (beginProcess noFloats emptySfxWorld)).map
      (fun pool => pool.shared.log)
        = some [.replayed "1", .applied "2", .created "2", .created "1"] := by
  decide +kernel

def calmDeletion : List SfxScript :=
  quietStart ++
  [.request 1 (.deleteFile bellPath), .poll (.request 1) (.go 0), .poll (.request 1) (.go 0),
    .poll (.request 1) (.go 0), .poll (.request 1) (.fresh "1"), .poll (.request 1) (.go 0),
    .poll (.request 1) (.go 0), .poll (.request 1) (.applied (.ok .deleted)),
    .poll (.request 1) (.go 0), .finish (.request 1)]

end MusicServer
