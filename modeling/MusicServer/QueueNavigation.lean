/-
# Moving through the ambient queue

History, current track and queue of the ambient lane are one sequence with a cursor at the
current track (`AmbientState.sequence`, `AmbientState.cursor`).  Skipping forward and back
moves the cursor; only a shuffled skip reorders the sequence, and none loses or doubles a
track (`navigate_run`).  A skip back undoes a skip forward (`skipPrevious_undoes`).
-/
import MusicServer.Reduce

namespace MusicServer

/-! ## The sequence and its cursor -/

/-- The tracks of the lane in playing order. -/
def AmbientState.sequence (ambient : AmbientState) : List TrackId :=
  ambient.withCurrent ++ ambient.queue

/-- The place of the current track in the sequence. -/
def AmbientState.cursor (ambient : AmbientState) : ℕ := ambient.history.length

/-- The cursor moved by one place at most, or from the last place to the first, which only
happens where the queue is looped. -/
def AmbientState.Moves (ambient next : AmbientState) : Prop :=
  next.cursor ≤ ambient.cursor + 1 ∧ ambient.cursor ≤ next.cursor + 1 ∨
    ambient.loopMode = .queue ∧ ambient.cursor + 1 = ambient.sequence.length ∧ next.cursor = 0

/-- What skipping makes of a lane that plays a track. -/
structure AmbientState.Navigates (ambient next : AmbientState) : Prop where
  current : next.currentTrackId.isSome
  loopMode : next.loopMode = ambient.loopMode
  shuffle : next.shuffle = ambient.shuffle
  conserved : next.sequence.Perm ambient.sequence
  ordered : ambient.shuffle = .off → next.sequence = ambient.sequence ∧ ambient.Moves next

/-- The lane before and after a run of skips; the cursor may be anywhere. -/
structure AmbientState.Navigated (ambient next : AmbientState) : Prop where
  current : next.currentTrackId.isSome
  loopMode : next.loopMode = ambient.loopMode
  shuffle : next.shuffle = ambient.shuffle
  conserved : next.sequence.Perm ambient.sequence
  ordered : ambient.shuffle = .off → next.sequence = ambient.sequence

variable {ambient next : AmbientState} {track : TrackId}

theorem withCurrent_eq (h : ambient.currentTrackId = some track) :
    ambient.withCurrent = ambient.history ++ [track] := by
  unfold AmbientState.withCurrent
  rw [h, Option.toList_some]

theorem sequence_eq (h : ambient.currentTrackId = some track) :
    ambient.sequence = ambient.history ++ track :: ambient.queue := by
  unfold AmbientState.sequence
  rw [withCurrent_eq h, List.append_assoc, List.singleton_append]

theorem AmbientState.Navigates.of_same (hcurrent : ambient.currentTrackId.isSome)
    (hhistory : next.history = ambient.history)
    (htrack : next.currentTrackId = ambient.currentTrackId)
    (hqueue : next.queue = ambient.queue) (hloop : next.loopMode = ambient.loopMode)
    (hshuffle : next.shuffle = ambient.shuffle) : ambient.Navigates next := by
  have hsequence : next.sequence = ambient.sequence := by
    unfold AmbientState.sequence AmbientState.withCurrent
    rw [hhistory, htrack, hqueue]
  have hcursor : next.cursor = ambient.cursor := by
    unfold AmbientState.cursor
    rw [hhistory]
  refine ⟨?_, hloop, hshuffle, ?_, ?_⟩
  · rw [htrack]
    exact hcurrent
  · rw [hsequence]
  · intro _
    refine ⟨hsequence, .inl ?_⟩
    omega

/-! ## One step -/

theorem AmbientState.Navigates.take (hcurrent : ambient.currentTrackId = some track)
    {index : ℕ} (hlt : index < ambient.queue.length)
    (hzero : ambient.shuffle = .off → index = 0) (anchor : Option ℕ) :
    ambient.Navigates { ambient with
      history := ambient.withCurrent
      currentTrackId := ambient.queue[index]?
      queue := ambient.queue.eraseIdx index
      positionMs := 0
      positionAnchorMs := anchor } := by
  have htaken : ambient.queue[index]? = some ambient.queue[index] :=
    List.getElem?_eq_getElem hlt
  refine ⟨?_, rfl, rfl, ?_, ?_⟩
  · simp only [htaken, Option.isSome_some]
  · -- the taken track moves to the front of what is left
    rw [sequence_eq htaken]
    unfold AmbientState.sequence
    exact (List.getElem_cons_eraseIdx_perm hlt).append_left _
  · intro hoff
    obtain rfl := hzero hoff
    constructor
    · rw [sequence_eq htaken]
      unfold AmbientState.sequence
      have hcons : ambient.queue[0] :: ambient.queue.eraseIdx 0 = ambient.queue := by
        rw [List.eraseIdx_zero, List.getElem_zero, List.cons_head_tail]
      exact congrArg (ambient.withCurrent ++ ·) hcons
    · left
      simp only [AmbientState.cursor, withCurrent_eq hcurrent, List.length_append,
        List.length_singleton]
      omega

theorem AmbientState.Navigates.wrap (hcurrent : ambient.currentTrackId = some track)
    (hqueue : ambient.queue = []) (hlooped : ambient.loopMode = .queue) (anchor : Option ℕ) :
    ambient.Navigates { ambient with
      history := []
      currentTrackId := ambient.withCurrent.head?
      queue := ambient.withCurrent.tail
      positionMs := 0
      positionAnchorMs := anchor } := by
  have hne : ambient.withCurrent ≠ [] := by
    rw [withCurrent_eq hcurrent]
    exact List.append_ne_nil_of_right_ne_nil _ (List.cons_ne_nil _ _)
  have hhead := List.head?_eq_some_head hne
  have hsequence : ambient.sequence = ambient.withCurrent := by
    unfold AmbientState.sequence
    rw [hqueue, List.append_nil]
  have hwrapped : AmbientState.sequence { ambient with
      history := []
      currentTrackId := ambient.withCurrent.head?
      queue := ambient.withCurrent.tail
      positionMs := 0
      positionAnchorMs := anchor } = ambient.sequence := by
    rw [sequence_eq hhead, hsequence, List.nil_append, List.cons_head_tail]
  refine ⟨?_, rfl, rfl, ?_, ?_⟩
  · simp only [hhead, Option.isSome_some]
  · rw [hwrapped]
  · intro _
    refine ⟨hwrapped, .inr ⟨hlooped, ?_, rfl⟩⟩
    rw [hsequence, withCurrent_eq hcurrent, List.length_append, List.length_singleton,
      AmbientState.cursor]

variable {random : Option ℕ}

theorem nextQueueIndex_off {index : ℕ} (hoff : ambient.shuffle = .off)
    (hindex : nextQueueIndex ambient random = .ok index) : index = 0 := by
  unfold nextQueueIndex at hindex
  rw [hoff] at hindex
  cases hindex
  rfl

variable {follow : Option TrackId} {playsOn : Bool}

theorem ambientAdvance_navigates {anchor : Option ℕ}
    (hcurrent : ambient.currentTrackId = some track)
    (hloop : ambient.loopMode = .queue ∨ ambient.loopMode = .track)
    (hnext : ambientAdvance ambient anchor follow random = .ok (next, playsOn)) :
    ambient.Navigates next := by
  have hplays : ambient.currentTrackId.isSome := by
    rw [hcurrent]
    rfl
  unfold ambientAdvance at hnext
  split at hnext
  · cases hnext
    exact .of_same hplays rfl rfl rfl rfl rfl
  next hnotTrack =>
  have hlooped : ambient.loopMode = .queue :=
    hloop.resolve_right fun htrack => hnotTrack ⟨htrack, hplays⟩
  split at hnext
  · next hqueue =>
    obtain ⟨index, hindex, hnext⟩ := bind_eq_ok.mp hnext
    cases hnext
    have hlt := nextQueueIndex_lt hindex (by simpa using hqueue)
    exact .take hcurrent hlt (fun hoff => nextQueueIndex_off hoff hindex) anchor
  next hempty =>
  have hqueue : ambient.queue = [] := by simpa using hempty
  split at hnext
  · cases hnext
    exact .wrap hcurrent hqueue hlooped anchor
  next hnotWrap =>
  exact absurd ⟨hlooped, .inr hplays⟩ hnotWrap

theorem ambientAdvance_wraps {anchor : Option ℕ} (hcurrent : ambient.currentTrackId = some track)
    (hlooped : ambient.loopMode = .queue) (hlast : ambient.cursor + 1 = ambient.sequence.length)
    (hnext : ambientAdvance ambient anchor follow random = .ok (next, playsOn)) :
    next.cursor = 0 := by
  have hqueue : ambient.queue = [] := by
    rw [sequence_eq hcurrent, List.length_append, List.length_cons, AmbientState.cursor] at hlast
    exact List.length_eq_zero_iff.mp (by omega)
  have hplays : ambient.currentTrackId.isSome := by
    rw [hcurrent]
    rfl
  have hnotTrack : ¬ (ambient.loopMode = .track ∧ ambient.currentTrackId.isSome) := by
    rw [hlooped]
    exact fun h => nomatch h.1
  unfold ambientAdvance at hnext
  rw [if_neg hnotTrack, hqueue, if_neg (by decide), if_pos ⟨hlooped, .inr hplays⟩] at hnext
  cases hnext
  rfl

theorem ambientRewind_navigates (hcurrent : ambient.currentTrackId = some track)
    (anchor : Option ℕ) : ambient.Navigates (ambientRewind ambient anchor) := by
  have hplays : ambient.currentTrackId.isSome := by
    rw [hcurrent]
    rfl
  unfold ambientRewind
  split
  · next previous hlast =>
    have hhistory : ambient.history.dropLast ++ [previous] = ambient.history :=
      List.dropLast_append_getLast? previous hlast
    have hlength : ambient.history.length = ambient.history.dropLast.length + 1 := by
      have hlength := congrArg List.length hhistory
      rw [List.length_append, List.length_singleton] at hlength
      exact hlength.symm
    have hsequence : AmbientState.sequence
        { ambient with history := ambient.history.dropLast,
                       queue := ambient.currentTrackId.toList ++ ambient.queue,
                       currentTrackId := some previous, positionMs := 0,
                       positionAnchorMs := anchor } = ambient.sequence := by
      rw [sequence_eq rfl, sequence_eq hcurrent]
      simp only [hcurrent, Option.toList_some, List.singleton_append]
      rw [List.append_cons, hhistory]
    refine ⟨rfl, rfl, rfl, ?_, ?_⟩
    · rw [hsequence]
    · intro _
      refine ⟨hsequence, .inl ?_⟩
      simp only [AmbientState.cursor]
      omega
  · exact .of_same hplays rfl rfl rfl rfl rfl

/-! ## Runs -/

def PlaybackCommand.Navigation : PlaybackCommand → Prop
  | .ambientSkipNext _ _ => True
  | .ambientSkipPrevious => True
  | _ => False

/-- The state after a command; one that is refused leaves it as it was. -/
def navigate (state : PlaybackState) (step : PlaybackCommand × ReductionContext) :
    PlaybackState :=
  match reduce state step.1 step.2 with
  | .ok reduction => reduction.nextState
  | .error _ => state

/-- The lanes a skip is promised something about. -/
structure AmbientState.Looping (ambient : AmbientState) : Prop where
  current : ambient.currentTrackId.isSome
  loopMode : ambient.loopMode = .queue ∨ ambient.loopMode = .track

variable {state : PlaybackState}

theorem reduce_skipNext {follow expected : Option TrackId} {context : ReductionContext}
    {reduction : Reduction}
    (h : reduce state (.ambientSkipNext follow expected) context = .ok reduction) :
    (reduction.changed = false ∧ reduction.nextState.ambient = state.ambient) ∨
      ∃ playsOn, ambientAdvance state.ambient (ambientAnchor state context.clock.monotonicMs)
        follow context.randomQueueIndex = .ok (reduction.nextState.ambient, playsOn) := by
  obtain ⟨r, hr, rfl⟩ := reduce_eq_ok.mp h
  obtain ⟨⟨s, changed⟩, hs, hr⟩ := bind_eq_ok.mp hr
  cases hr
  rw [nextState_settle, changed_settle]
  unfold ambientSkipNext at hs
  split at hs
  · cases hs
    exact .inl ⟨rfl, rfl⟩
  split at hs
  · cases hs
    exact .inl ⟨rfl, rfl⟩
  · obtain ⟨counted, hcounted, hs⟩ := bind_eq_ok.mp hs
    obtain ⟨⟨ambient, playsOn⟩, hadvanced, hs⟩ := bind_eq_ok.mp hs
    obtain ⟨-, rfl⟩ := incrementPositionEpoch_eq_ok.mp hcounted
    cases hs
    exact .inr ⟨playsOn, hadvanced⟩

theorem reduce_skipPrevious {context : ReductionContext} {reduction : Reduction}
    (hcurrent : state.ambient.currentTrackId.isSome)
    (h : reduce state .ambientSkipPrevious context = .ok reduction) :
    reduction.nextState.ambient =
      ambientRewind state.ambient (ambientAnchor state context.clock.monotonicMs) := by
  obtain ⟨r, hr, rfl⟩ := reduce_eq_ok.mp h
  obtain ⟨⟨s, changed⟩, hs, hr⟩ := bind_eq_ok.mp hr
  cases hr
  rw [nextState_settle]
  unfold ambientSkipPrevious at hs
  rw [if_neg fun hnone => by rw [Option.isNone_iff_eq_none.mp hnone.2] at hcurrent; cases hcurrent]
    at hs
  obtain ⟨counted, hcounted, hs⟩ := bind_eq_ok.mp hs
  obtain ⟨-, rfl⟩ := incrementPositionEpoch_eq_ok.mp hcounted
  cases hs
  rfl

theorem navigate_navigates (h : state.ambient.Looping) {step : PlaybackCommand × ReductionContext}
    (hstep : step.1.Navigation) :
    state.ambient.Navigates (navigate state step).ambient := by
  obtain ⟨track, hcurrent⟩ := Option.isSome_iff_exists.mp h.current
  obtain ⟨command, context⟩ := step
  unfold navigate
  rcases hreduced : reduce state command context with _ | reduction
  · exact .of_same h.current rfl rfl rfl rfl rfl
  cases command with
  | ambientSkipNext follow expected =>
    rcases reduce_skipNext hreduced with ⟨-, hsame⟩ | ⟨playsOn, hadvanced⟩
    · simp only [hsame]
      exact .of_same h.current rfl rfl rfl rfl rfl
    · exact ambientAdvance_navigates hcurrent h.loopMode hadvanced
  | ambientSkipPrevious =>
    simp only [reduce_skipPrevious h.current hreduced]
    exact ambientRewind_navigates hcurrent _
  | _ => exact hstep.elim

theorem AmbientState.Navigates.looping (hnext : ambient.Navigates next)
    (h : ambient.Looping) : next.Looping := by
  refine ⟨hnext.current, ?_⟩
  rw [hnext.loopMode]
  exact h.loopMode

theorem navigate_run (h : state.ambient.Looping) {steps : List (PlaybackCommand × ReductionContext)}
    (hsteps : ∀ step ∈ steps, step.1.Navigation) :
    state.ambient.Navigated (steps.foldl navigate state).ambient := by
  induction steps generalizing state with
  | nil => exact ⟨h.current, rfl, rfl, .refl _, fun _ => rfl⟩
  | cons step rest ih =>
    have hfirst := navigate_navigates h (hsteps step List.mem_cons_self)
    have hrest := ih (hfirst.looping h) fun step hmem => hsteps step (List.mem_cons_of_mem _ hmem)
    refine ⟨hrest.current, hrest.loopMode.trans hfirst.loopMode,
      hrest.shuffle.trans hfirst.shuffle, hrest.conserved.trans hfirst.conserved, ?_⟩
    intro hoff
    have hstill : (navigate state step).ambient.shuffle = .off := hfirst.shuffle.trans hoff
    exact (hrest.ordered hstill).trans (hfirst.ordered hoff).1

/-! ## Forward and back -/

theorem ambientAdvance_playsOn {anchor : Option ℕ} (hqueue : ambient.queue ≠ [])
    (hnext : ambientAdvance ambient anchor follow random = .ok (next, playsOn)) :
    playsOn = true := by
  obtain ⟨first, rest, hcons⟩ := List.exists_cons_of_ne_nil hqueue
  have hfull : (!ambient.queue.isEmpty) = true := by
    rw [hcons]
    rfl
  unfold ambientAdvance at hnext
  split at hnext
  · cases hnext
    rfl
  · obtain ⟨index, -, hnext⟩ := bind_eq_ok.mp hnext
    cases hnext
    rfl

theorem ambientRewind_advance {anchor back : Option ℕ}
    (hcurrent : ambient.currentTrackId = some track) (hloop : ambient.loopMode ≠ .track)
    (hoff : ambient.shuffle = .off) (hqueue : ambient.queue ≠ [])
    (hnext : ambientAdvance ambient anchor follow random = .ok (next, playsOn)) :
    (ambientRewind next back).history = ambient.history ∧
      (ambientRewind next back).currentTrackId = ambient.currentTrackId ∧
      (ambientRewind next back).queue = ambient.queue := by
  obtain ⟨first, rest, hcons⟩ := List.exists_cons_of_ne_nil hqueue
  unfold ambientAdvance at hnext
  rw [if_neg fun h => hloop h.1, if_pos (by rw [hcons]; rfl)] at hnext
  obtain ⟨index, hindex, hnext⟩ := bind_eq_ok.mp hnext
  obtain rfl := nextQueueIndex_off hoff hindex
  cases hnext
  have hlast : ambient.withCurrent.getLast? = some track := by
    rw [withCurrent_eq hcurrent, List.getLast?_concat]
  unfold ambientRewind
  simp only [hlast]
  refine ⟨?_, hcurrent.symm, ?_⟩
  · rw [withCurrent_eq hcurrent, List.dropLast_concat]
  · rw [hcons]
    rfl

theorem skipPrevious_undoes (hcurrent : state.ambient.currentTrackId.isSome)
    (hloop : state.ambient.loopMode ≠ .track) (hoff : state.ambient.shuffle = .off)
    (hqueue : state.ambient.queue ≠ []) {follow expected : Option TrackId}
    {forward back : ReductionContext} {skipped returned : Reduction}
    (hskipped : reduce state (.ambientSkipNext follow expected) forward = .ok skipped)
    (hchanged : skipped.changed = true)
    (hreturned : reduce skipped.nextState .ambientSkipPrevious back = .ok returned) :
    returned.nextState.ambient.history = state.ambient.history ∧
      returned.nextState.ambient.currentTrackId = state.ambient.currentTrackId ∧
      returned.nextState.ambient.queue = state.ambient.queue := by
  obtain ⟨track, htrack⟩ := Option.isSome_iff_exists.mp hcurrent
  rcases reduce_skipNext hskipped with ⟨hunchanged, -⟩ | ⟨playsOn, hadvanced⟩
  · rw [hchanged] at hunchanged
    cases hunchanged
  have hplays : skipped.nextState.ambient.currentTrackId.isSome := by
    rcases ambientAdvance_clock hadvanced with ⟨taken, htaken, -⟩ | ⟨hnone, -, hstops⟩
    · rw [htaken]
      rfl
    · -- a queue that is not empty is never played out
      have hplaysOn := ambientAdvance_playsOn hqueue hadvanced
      rw [hstops] at hplaysOn
      cases hplaysOn
  rw [reduce_skipPrevious hplays hreturned]
  exact ambientRewind_advance htrack hloop hoff hqueue hadvanced

/-! ## The queue under navigation -/

/-- A lane in the middle of three tracks that loops its queue. -/
def halfwayState : PlaybackState := { PlaybackState.default with
  ambient := { AmbientState.default with
    loopMode := .queue
    shuffle := .off
    history := [⟨1, by decide⟩]
    currentTrackId := some ⟨2, by decide⟩
    queue := [⟨3, by decide⟩] } }

end MusicServer
