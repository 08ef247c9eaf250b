/-
# Racing end-of-track advances

Several outputs and the owner's own deadline all ask for the next track when one ends,
and each names the track it saw.  The reducer drops an advance whose track is no longer
the current one, so of two racing advances one is dropped, unless the track they name is
current again after the first: the track loops, the queue repeats it, the sequence wraps
around to it, or it is its own successor.
-/
import MusicServer.Transport

namespace MusicServer

/-! ## Advances -/

/-- The two advances an observer of the end of a track can send. -/
inductive Advance where
  | ambient (followNextId : Option TrackId)
  | interrupt
  deriving DecidableEq

/-- The advance as a command that carries the observed track. -/
def Advance.command (observed : TrackId) : Advance → PlaybackCommand
  | .ambient followNextId => .ambientSkipNext followNextId (some observed)
  | .interrupt => .interruptSkipNext (some observed)

/-- The state an advance leaves and whether it changed.  One the reducer refuses leaves
the state as it was. -/
def Advance.outcome (advance : Advance) (observed : TrackId) (state : PlaybackState)
    (context : ReductionContext) : PlaybackState × Bool :=
  match reduce state (advance.command observed) context with
  | .ok reduction => (reduction.nextState, reduction.changed)
  | .error _ => (state, false)

/-! ## What one advance does -/

/-- The random choice an advance may need is there and in range. -/
def ChoiceReady (shuffle : ShuffleMode) (queueLength : ℕ) (random : Option ℕ) : Prop :=
  queueLength = 0 ∨ shuffle = .off ∨ ∃ choice, random = some choice ∧ choice < queueLength

/-- The conditions under which an advance carrying `observed` changes a state. -/
def Advance.Moves (advance : Advance) (observed : TrackId) (state : PlaybackState)
    (random : Option ℕ) : Prop :=
  state.positionEpoch < u64Max ∧
    match advance with
    | .ambient _ => state.ambient.currentTrackId = some observed ∧
        (state.ambient.loopMode = .track ∨
          ChoiceReady state.ambient.shuffle state.ambient.queue.length random)
    | .interrupt => ∃ interrupt, state.interrupt = some interrupt ∧
        interrupt.currentTrackId = observed

/-- The queue index an advance takes, where the queue has one for it. -/
def choiceIndex (shuffle : ShuffleMode) (random : Option ℕ) : ℕ :=
  match shuffle with
  | .off => 0
  | .random => random.getD 0

theorem nextQueueIndex_eq_ok {ambient : AmbientState} {random : Option ℕ} {index : ℕ}
    (hqueue : ambient.queue ≠ []) :
    nextQueueIndex ambient random = .ok index ↔
      ChoiceReady ambient.shuffle ambient.queue.length random ∧
        index = choiceIndex ambient.shuffle random := by
  have hlength : ambient.queue.length ≠ 0 := by simpa using hqueue
  unfold nextQueueIndex ChoiceReady choiceIndex
  cases ambient.shuffle with
  | off => simp [eq_comm]
  | random =>
    cases random with
    | none => simp [hlength]
    | some choice =>
      by_cases hchoice : choice < ambient.queue.length
      · simp [hchoice, Nat.not_le.mpr hchoice, eq_comm]
      · simp [hchoice, Nat.le_of_not_lt hchoice, hlength]

theorem choiceIndex_lt {shuffle : ShuffleMode} {length : ℕ} {random : Option ℕ}
    (hlength : length ≠ 0) (h : ChoiceReady shuffle length random) :
    choiceIndex shuffle random < length := by
  rcases h with h | rfl | ⟨choice, rfl, hchoice⟩
  · exact absurd h hlength
  · exact Nat.pos_of_ne_zero hlength
  · cases shuffle with
    | off => exact Nat.pos_of_ne_zero hlength
    | random => exact hchoice

/-- The lane after an advance from a track that is playing. -/
inductive AdvanceFrom (ambient : AmbientState) (anchor : Option ℕ) (follow : Option TrackId)
    (random : Option ℕ) (current : TrackId) : AmbientState × Bool → Prop where
  | loop (hloop : ambient.loopMode = .track) :
      AdvanceFrom ambient anchor follow random current
        ({ ambient with positionMs := 0, positionAnchorMs := anchor }, true)
  | queue (hloop : ambient.loopMode ≠ .track) (hqueue : ambient.queue ≠ [])
      (hready : ChoiceReady ambient.shuffle ambient.queue.length random) :
      AdvanceFrom ambient anchor follow random current
        ({ ambient with
          history := ambient.history ++ [current]
          currentTrackId := ambient.queue[choiceIndex ambient.shuffle random]?
          queue := ambient.queue.eraseIdx (choiceIndex ambient.shuffle random)
          positionMs := 0
          positionAnchorMs := anchor }, true)
  | wrap (hloop : ambient.loopMode = .queue) (hqueue : ambient.queue = []) :
      AdvanceFrom ambient anchor follow random current
        ({ ambient with
          history := []
          currentTrackId := (ambient.history ++ [current]).head?
          queue := (ambient.history ++ [current]).tail
          positionMs := 0
          positionAnchorMs := anchor }, true)
  | follow (hloop : ambient.loopMode = .follow) (hqueue : ambient.queue = [])
      (hfollow : follow.isSome) :
      AdvanceFrom ambient anchor follow random current
        ({ ambient with
          history := ambient.history ++ [current]
          currentTrackId := follow
          queue := []
          positionMs := 0
          positionAnchorMs := anchor }, true)
  | finish (hqueue : ambient.queue = []) (hloop : ambient.loopMode ≠ .track)
      (hwrap : ambient.loopMode ≠ .queue) (hfollow : ambient.loopMode = .follow → follow = none) :
      AdvanceFrom ambient anchor follow random current
        ({ ambient with currentTrackId := none, positionMs := 0, positionAnchorMs := none },
          false)

variable {follow : Option TrackId}

theorem ambientAdvance_from {ambient : AmbientState} {anchor : Option ℕ} {random : Option ℕ}
    {current : TrackId} {next : AmbientState × Bool}
    (hcurrent : ambient.currentTrackId = some current)
    (h : ambientAdvance ambient anchor follow random = .ok next) :
    AdvanceFrom ambient anchor follow random current next := by
  have hwith : ambient.withCurrent = ambient.history ++ [current] := by
    simp [AmbientState.withCurrent, hcurrent]
  unfold ambientAdvance at h
  split at h
  · next hloop =>
    cases h
    exact .loop hloop.1
  next hloop =>
  have hloop' : ambient.loopMode ≠ .track := fun heq => hloop ⟨heq, by simp [hcurrent]⟩
  split at h
  · next hqueue =>
    have hqueue' : ambient.queue ≠ [] := by simpa using hqueue
    obtain ⟨index, hindex, h⟩ := bind_eq_ok.mp h
    cases h
    obtain ⟨hready, rfl⟩ := (nextQueueIndex_eq_ok hqueue').mp hindex
    rw [hwith]
    exact .queue hloop' hqueue' hready
  next hqueue =>
  have hqueue' : ambient.queue = [] := by simpa using hqueue
  split at h
  · next hwrap =>
    cases h
    rw [hwith]
    exact .wrap hwrap.1 hqueue'
  next hwrap =>
  split at h
  · next hfollow =>
    cases h
    rw [hwith]
    exact .follow hfollow.1 hqueue' hfollow.2
  · next hfollow =>
    cases h
    refine .finish hqueue' hloop' (fun heq => hwrap ⟨heq, by simp [hcurrent]⟩) fun heq => ?_
    exact Option.not_isSome_iff_eq_none.mp fun hsome => hfollow ⟨heq, hsome⟩

theorem ambientAdvance_isOk_iff {ambient : AmbientState} {anchor : Option ℕ}
    {follow : Option TrackId} {random : Option ℕ} (hcurrent : ambient.currentTrackId.isSome) :
    (∃ next, ambientAdvance ambient anchor follow random = .ok next) ↔
      ambient.loopMode = .track ∨
        ChoiceReady ambient.shuffle ambient.queue.length random := by
  by_cases hloop : ambient.loopMode = .track
  · simp [ambientAdvance, hloop, hcurrent]
  by_cases hqueue : ambient.queue = []
  · refine ⟨fun _ => .inr (.inl (by simp [hqueue])), fun _ => ?_⟩
    unfold ambientAdvance
    rw [if_neg fun h => hloop h.1, if_neg (by simp [hqueue])]
    split
    · exact ⟨_, rfl⟩
    · split <;> exact ⟨_, rfl⟩
  · have hbranch : ambientAdvance ambient anchor follow random =
        nextQueueIndex ambient random >>= fun index => pure ({ ambient with
          history := ambient.withCurrent
          currentTrackId := ambient.queue[index]?
          queue := ambient.queue.eraseIdx index
          positionMs := 0
          positionAnchorMs := anchor }, true) := by
      simp [ambientAdvance, hloop, hqueue]
    rw [hbranch]
    constructor
    · rintro ⟨next, hnext⟩
      obtain ⟨index, hindex, -⟩ := bind_eq_ok.mp hnext
      exact .inr ((nextQueueIndex_eq_ok hqueue).mp hindex).1
    · rintro (h | hready)
      · exact absurd h hloop
      · exact ⟨_, bind_eq_ok.mpr ⟨_, (nextQueueIndex_eq_ok hqueue).mpr ⟨hready, rfl⟩, rfl⟩⟩

/-! ## The outcome of one advance -/

theorem outcome_ambient (follow : Option TrackId) (observed : TrackId) (s : PlaybackState)
    (context : ReductionContext) :
    (Advance.ambient follow).outcome observed s context =
      match ambientSkipNext s follow (some observed) context with
      | .ok result => result
      | .error _ => (s, false) := by
  simp only [Advance.outcome, Advance.command, reduce, applyCommand]
  cases ambientSkipNext s follow (some observed) context with
  | error error => rfl
  | ok result => simp [bind, Except.bind, pure, Except.pure, Reduction.durable]

theorem outcome_interrupt (observed : TrackId) (s : PlaybackState)
    (context : ReductionContext) :
    Advance.interrupt.outcome observed s context =
      match interruptSkipNext s (some observed) context.clock.monotonicMs with
      | .ok result => result
      | .error _ => (s, false) := by
  simp only [Advance.outcome, Advance.command, reduce, applyCommand]
  cases interruptSkipNext s (some observed) context.clock.monotonicMs with
  | error error => rfl
  | ok result => simp [bind, Except.bind, pure, Except.pure, Reduction.durable]

variable {s : PlaybackState} {observed : TrackId} {context : ReductionContext}

theorem outcome_ambient_of_not_moves
    (h : ¬ (Advance.ambient follow).Moves observed s context.randomQueueIndex) :
    (Advance.ambient follow).outcome observed s context = (s, false) := by
  rw [outcome_ambient]
  unfold ambientSkipNext
  by_cases hcurrent : s.ambient.currentTrackId = some observed
  · rw [if_neg fun hne => hne.2 hcurrent, if_neg (by simp [hcurrent])]
    by_cases hepoch : s.positionEpoch < u64Max
    · -- Only the random choice can be missing.
      have hfails : ∀ anchor next, ambientAdvance s.ambient anchor follow
          context.randomQueueIndex ≠ .ok next := fun anchor next hnext =>
        h ⟨hepoch, hcurrent, (ambientAdvance_isOk_iff (by simp [hcurrent])).mp ⟨next, hnext⟩⟩
      rw [incrementPositionEpoch_eq_ok.mpr ⟨hepoch, rfl⟩]
      simp only [bind, Except.bind]
      cases hadvance : ambientAdvance s.ambient
          (ambientAnchor s context.clock.monotonicMs) follow context.randomQueueIndex with
      | error error => rfl
      | ok next => exact absurd hadvance (hfails _ _)
    · simp [incrementPositionEpoch, checkedIncrement, hepoch, bind, Except.bind]
  · rw [if_pos ⟨rfl, hcurrent⟩]

theorem outcome_ambient_of_moves
    (h : (Advance.ambient follow).Moves observed s context.randomQueueIndex) :
    ∃ next, AdvanceFrom s.ambient (ambientAnchor s context.clock.monotonicMs) follow
        context.randomQueueIndex observed next ∧
      (Advance.ambient follow).outcome observed s context =
        ({ s with
          positionEpoch := s.positionEpoch + 1
          ambient := next.1
          isPlaying := s.isPlaying && next.2 }, true) := by
  obtain ⟨hepoch, hcurrent, hready⟩ := h
  obtain ⟨next, hnext⟩ :=
    (@ambientAdvance_isOk_iff s.ambient (ambientAnchor s context.clock.monotonicMs) follow _
      (by simp [hcurrent])).mpr hready
  refine ⟨next, ambientAdvance_from hcurrent hnext, ?_⟩
  rw [outcome_ambient]
  unfold ambientSkipNext
  rw [if_neg fun hne => hne.2 hcurrent, if_neg (by simp [hcurrent]),
    incrementPositionEpoch_eq_ok.mpr ⟨hepoch, rfl⟩]
  simp only [bind, Except.bind, hnext]
  rfl

/-- Two ambient lanes that differ in nothing but the clock. -/
def AmbientState.SameLane (before after : AmbientState) : Prop :=
  after = { before with
    positionMs := after.positionMs
    positionAnchorMs := after.positionAnchorMs }

theorem increment_then (hepoch : s.positionEpoch < u64Max) :
    (do
      let state ← incrementPositionEpoch s
      return (state, true)) =
      Except.ok ({ s with positionEpoch := s.positionEpoch + 1 }, true) := by
  rw [incrementPositionEpoch_eq_ok.mpr ⟨hepoch, rfl⟩]
  rfl

theorem endInterrupt_moves {interrupt : InterruptState} (now : ℕ)
    (hi : s.interrupt = some interrupt) (hepoch : s.positionEpoch < u64Max) :
    ∃ next, endInterrupt s now = .ok (next, true) ∧ next.interrupt = none ∧
      next.positionEpoch = s.positionEpoch + 1 ∧ s.ambient.SameLane next.ambient := by
  simp only [endInterrupt, hi]
  cases hreturn : interrupt.returnToAmbient with
  | true =>
    by_cases hresume : (s.isPlaying && s.ambient.currentTrackId.isSome &&
        s.ambient.positionAnchorMs.isNone) = true
    · simp only [hresume, if_true]
      exact ⟨_, increment_then hepoch, rfl, rfl, rfl⟩
    · simp only [hresume, if_true]
      exact ⟨_, increment_then hepoch, rfl, rfl, rfl⟩
  | false =>
    simp only [freezeAmbient_eq]
    exact ⟨_, increment_then hepoch, rfl, rfl, rfl⟩

theorem outcome_interrupt_of_not_moves
    (h : ¬ Advance.interrupt.Moves observed s context.randomQueueIndex) :
    Advance.interrupt.outcome observed s context = (s, false) := by
  rw [outcome_interrupt]
  unfold interruptSkipNext
  cases hi : s.interrupt with
  | none => rfl
  | some interrupt =>
    by_cases hcurrent : interrupt.currentTrackId = observed
    · have hepoch : ¬ s.positionEpoch < u64Max := fun hlt => h ⟨hlt, interrupt, hi, hcurrent⟩
      have hoverflow : ∀ s' : PlaybackState, s'.positionEpoch = s.positionEpoch →
          incrementPositionEpoch s' = .error .positionEpochOverflow := by
        intro s' heq
        simp [incrementPositionEpoch, checkedIncrement, heq, hepoch]
      have hend : endInterrupt s context.clock.monotonicMs = .error .positionEpochOverflow := by
        simp only [endInterrupt, hi]
        rw [hoverflow]
        · rfl
        · split
          · split <;> rfl
          · rfl
      simp only [hcurrent, ne_eq, not_true_eq_false, and_false, if_false]
      cases hqueue : interrupt.queue with
      | nil => simp only [hend]
      | cons track queue =>
        simp only
        rw [hoverflow]
        · rfl
        · rfl
    · simp [hcurrent]

theorem outcome_interrupt_of_moves {interrupt : InterruptState} (hepoch : s.positionEpoch < u64Max)
    (hi : s.interrupt = some interrupt) (hcurrent : interrupt.currentTrackId = observed)
    (context : ReductionContext) :
    ∃ next, Advance.interrupt.outcome observed s context = (next, true) ∧
      next.positionEpoch = s.positionEpoch + 1 ∧ s.ambient.SameLane next.ambient ∧
      next.interrupt.map (·.currentTrackId) = interrupt.queue.head? := by
  rw [outcome_interrupt]
  simp only [interruptSkipNext, hi, hcurrent, ne_eq, not_true_eq_false, and_false, if_false]
  cases hqueue : interrupt.queue with
  | cons track queue =>
    simp only
    rw [increment_then]
    · exact ⟨_, rfl, rfl, rfl, rfl⟩
    · exact hepoch
  | nil =>
    obtain ⟨next, hend, hnone, hnext, hlane⟩ :=
      endInterrupt_moves context.clock.monotonicMs hi hepoch
    refine ⟨next, ?_, hnext, hlane, by rw [hnone]; rfl⟩
    simp only [hend]

theorem outcome_changed_iff (advance : Advance) (observed : TrackId) (s : PlaybackState)
    (context : ReductionContext) :
    (advance.outcome observed s context).2 = true ↔
      advance.Moves observed s context.randomQueueIndex := by
  by_cases h : advance.Moves observed s context.randomQueueIndex
  · refine iff_of_true ?_ h
    cases advance with
    | ambient follow =>
      obtain ⟨next, -, houtcome⟩ := outcome_ambient_of_moves h
      rw [houtcome]
    | interrupt =>
      obtain ⟨hepoch, interrupt, hi, hcurrent⟩ := h
      obtain ⟨next, houtcome, -⟩ := outcome_interrupt_of_moves hepoch hi hcurrent context
      rw [houtcome]
  · refine iff_of_false ?_ h
    cases advance with
    | ambient follow => simp [outcome_ambient_of_not_moves h]
    | interrupt => simp [outcome_interrupt_of_not_moves h]

theorem outcome_unchanged {advance : Advance} (h : (advance.outcome observed s context).2 = false) :
    (advance.outcome observed s context).1 = s := by
  have hmoves : ¬ advance.Moves observed s context.randomQueueIndex := fun hmoves => by
    rw [(outcome_changed_iff advance observed s context).mpr hmoves] at h
    cases h
  cases advance with
  | ambient follow => rw [outcome_ambient_of_not_moves hmoves]
  | interrupt => rw [outcome_interrupt_of_not_moves hmoves]

/-! ## Two advances -/

/-- After an ambient advance from `observed` the lane is on `observed` again, and ready
to advance once more. -/
def AmbientState.ComesRound (ambient : AmbientState) (observed : TrackId)
    (follow : Option TrackId) (random₁ random₂ : Option ℕ) : Prop :=
  -- The track loops.
  ambient.loopMode = .track ∨
  -- The queue repeats it next.
  (ambient.loopMode ≠ .track ∧
    ambient.queue[choiceIndex ambient.shuffle random₁]? = some observed ∧
    ChoiceReady ambient.shuffle (ambient.queue.length - 1) random₂) ∨
  -- The sequence wraps around to it.
  (ambient.queue = [] ∧ ambient.loopMode = .queue ∧
    (ambient.history ++ [observed]).head? = some observed ∧
    ChoiceReady ambient.shuffle ambient.history.length random₂) ∨
  -- It is its own successor.
  (ambient.queue = [] ∧ ambient.loopMode = .follow ∧ follow = some observed)

/-- After a first advance that moved, `observed` is current for the second as well. -/
def Advance.SeenAgain (first second : Advance) (observed : TrackId) (state : PlaybackState)
    (random₁ random₂ : Option ℕ) : Prop :=
  state.positionEpoch + 1 < u64Max ∧
    match first, second with
    | .ambient follow, .ambient _ => state.ambient.ComesRound observed follow random₁ random₂
    | .interrupt, .interrupt => ∃ interrupt, state.interrupt = some interrupt ∧
        interrupt.queue.head? = some observed
    | .ambient _, .interrupt => ∃ interrupt, state.interrupt = some interrupt ∧
        interrupt.currentTrackId = observed
    | .interrupt, .ambient _ => state.ambient.currentTrackId = some observed ∧
        (state.ambient.loopMode = .track ∨
          ChoiceReady state.ambient.shuffle state.ambient.queue.length random₂)

/-- Of two advances at most one changes the state; the other leaves it equal. -/
def AtMostOneAdvances (first second : Advance) (observed : TrackId) (state : PlaybackState)
    (context₁ context₂ : ReductionContext) : Prop :=
  let once := first.outcome observed state context₁
  let twice := second.outcome observed once.1 context₂
  (once.2 = false ∧ once.1 = state) ∨ (twice.2 = false ∧ twice.1 = once.1)

theorem atMostOneAdvances_iff (first second : Advance) (observed : TrackId)
    (s : PlaybackState) (context₁ context₂ : ReductionContext) :
    AtMostOneAdvances first second observed s context₁ context₂ ↔
      ¬ (first.Moves observed s context₁.randomQueueIndex ∧
        second.Moves observed (first.outcome observed s context₁).1
          context₂.randomQueueIndex) := by
  rw [← outcome_changed_iff, ← outcome_changed_iff, not_and_or, Bool.not_eq_true,
    Bool.not_eq_true]
  unfold AtMostOneAdvances
  constructor
  · rintro (⟨h, -⟩ | ⟨h, -⟩)
    · exact .inl h
    · exact .inr h
  · rintro (h | h)
    · exact .inl ⟨h, outcome_unchanged h⟩
    · exact .inr ⟨h, outcome_unchanged h⟩

/-- Where the first advance moves, the second does exactly when the observed track is
current again. -/
theorem moves_again_iff {first second : Advance} {context₁ : ReductionContext}
    (h : first.Moves observed s context₁.randomQueueIndex) (random₂ : Option ℕ) :
    second.Moves observed (first.outcome observed s context₁).1 random₂ ↔
      first.SeenAgain second observed s context₁.randomQueueIndex random₂ := by
  cases first with
  | interrupt =>
    obtain ⟨hepoch, interrupt, hi, hcurrent⟩ := h
    obtain ⟨next, houtcome, hnext, hlane, htrack⟩ :=
      outcome_interrupt_of_moves hepoch hi hcurrent context₁
    rw [houtcome]
    unfold Advance.Moves Advance.SeenAgain
    rw [hnext]
    refine and_congr_right fun _ => ?_
    cases second with
    | interrupt =>
      have hmap : (∃ i, next.interrupt = some i ∧ i.currentTrackId = observed) ↔
          next.interrupt.map (·.currentTrackId) = some observed := by simp
      simp only
      rw [hmap, htrack, hi]
      simp
    | ambient follow =>
      simp only
      rw [hlane]
  | ambient follow =>
    obtain ⟨next, hfrom, houtcome⟩ := outcome_ambient_of_moves h
    rw [houtcome]
    unfold Advance.Moves Advance.SeenAgain
    refine and_congr_right fun _ => ?_
    cases second with
    | interrupt => rfl
    | ambient follow₂ =>
      obtain ⟨-, hcurrent, -⟩ := h
      unfold AmbientState.ComesRound
      cases hfrom with
      | loop hloop => simp [hloop, hcurrent]
      | queue hloop hqueue hready =>
        have hlength : (s.ambient.queue.eraseIdx
            (choiceIndex s.ambient.shuffle context₁.randomQueueIndex)).length =
              s.ambient.queue.length - 1 :=
          List.length_eraseIdx_of_lt (choiceIndex_lt (by simpa using hqueue) hready)
        simp [hloop, hqueue, hlength]
      | wrap hloop hqueue => simp [hloop, hqueue]
      | follow hloop hqueue hfollow => simp [hloop, hqueue, ChoiceReady]
      | finish hqueue hloop hwrap hfollow =>
        have hnone : ¬ (s.ambient.loopMode = .follow ∧ follow = some observed) := by
          rintro ⟨hmode, hsome⟩
          rw [hfollow hmode] at hsome
          cases hsome
        simp [hloop, hqueue, hwrap, hnone]

/-- Two advances that carry the same observed track change the state at most once,
unless the first moves and finds the track current again. -/
theorem atMostOneAdvances_iff_not_seenAgain (first second : Advance) (observed : TrackId)
    (s : PlaybackState) (context₁ context₂ : ReductionContext) :
    AtMostOneAdvances first second observed s context₁ context₂ ↔
      ¬ (first.Moves observed s context₁.randomQueueIndex ∧
        first.SeenAgain second observed s context₁.randomQueueIndex
          context₂.randomQueueIndex) := by
  rw [atMostOneAdvances_iff]
  refine not_congr (and_congr_right fun hmoves => ?_)
  exact moves_again_iff hmoves context₂.randomQueueIndex

/-! ## A queue that repeats the current track -/

/-- Track 1 is playing and queued once more. -/
def repeatedTrack : PlaybackState :=
  { PlaybackState.default with
    positionEpoch := 1
    isPlaying := true
    ambient := { AmbientState.default with
      currentTrackId := some ⟨1, Int.one_pos⟩
      queue := [⟨1, Int.one_pos⟩]
      positionAnchorMs := some 0 } }

/-- The state is the one a two-entry sequence starts in. -/
example :
    ∃ r, reduce .default (.ambientPlaySequence [⟨1, by decide⟩, ⟨1, by decide⟩] 0 none)
      ⟨⟨0, 0, le_refl 0⟩, none⟩ = .ok r ∧ r.nextState = repeatedTrack :=
  ⟨_, rfl, rfl⟩

/-- Two outputs that both saw the first copy end skip the second copy as well, and
playback stops. -/
theorem advances_not_harmless :
    ¬ ∀ (first second : Advance) (observed : TrackId) (s : PlaybackState)
        (context₁ context₂ : ReductionContext),
      AtMostOneAdvances first second observed s context₁ context₂ := by
  intro h
  have honce := h (.ambient none) (.ambient none) ⟨1, by decide⟩ repeatedTrack
    ⟨⟨180000, 180, by norm_num⟩, none⟩ ⟨⟨180001, 180, by norm_num⟩, none⟩
  rcases honce with ⟨hfirst, -⟩ | ⟨hsecond, -⟩
  · revert hfirst
    decide +kernel
  · revert hsecond
    decide +kernel

end MusicServer
