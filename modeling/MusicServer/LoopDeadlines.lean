/-
# Loops and their deadlines

The looping effects of the state and the deadlines of the owner are two collections that
every change of the loops has to keep together.  `PlaybackActor.LoopsTimed` says that the
ids of the loops are distinct and are the keys of the deadlines.  The deadlines after a
change are read off the loops before and after it (`getElem?_reconcileLoopDeadlines`): a
loop that stayed keeps its deadline, a new or restarted one begins a new interval.
-/
import MusicServer.OutputMembership
import MusicServer.PublicationOrder
import Std.Data.String.ToNat

namespace MusicServer

open Transition

/-! ## Maps filled from a list -/

section

variable {α β : Type} (key : α → String) (value : α → β)

theorem getElem?_foldl_insertIfNew (l : List α) (known : BTreeMap String β) (id : String) :
    (l.foldl (fun known x => known.insertIfNew (key x) (value x)) known)[id]? =
      known[id]?.or ((l.find? (key · == id)).map value) := by
  induction l generalizing known with
  | nil => rw [List.foldl_nil, List.find?_nil, Option.map_none, Option.or_none]
  | cons x rest ih =>
    rw [List.foldl_cons, ih, Std.ExtTreeMap.getElem?_insertIfNew]
    by_cases hkey : key x = id
    · have heq : compare (key x) id = .eq := Std.LawfulEqCmp.compare_eq_iff_eq.mpr hkey
      rw [List.find?_cons_of_pos (by rw [hkey, beq_self_eq_true]), Option.map_some]
      by_cases hmem : key x ∈ known
      · rw [if_neg fun h => h.2 hmem]
        rw [hkey, Std.ExtTreeMap.mem_iff_isSome_getElem?] at hmem
        obtain ⟨found, hfound⟩ := Option.isSome_iff_exists.mp hmem
        rw [hfound, Option.some_or, Option.some_or]
      · rw [if_pos ⟨heq, hmem⟩, Option.some_or]
        rw [hkey, Std.ExtTreeMap.mem_iff_isSome_getElem?, Bool.not_eq_true,
          Option.isSome_eq_false_iff, Option.isNone_iff_eq_none] at hmem
        rw [hmem, Option.none_or]
    · have hne : ¬ (compare (key x) id = .eq ∧ ¬ key x ∈ known) :=
        fun h => hkey (Std.LawfulEqCmp.eq_of_compare h.1)
      rw [if_neg hne, List.find?_cons_of_neg (by rw [beq_iff_eq]; exact hkey)]

end

/-! ## The loops of a state -/

/-- The ids of the loops, in the order they were started. -/
def PlaybackState.loopIds (state : PlaybackState) : List String :=
  state.loopingSfx.map (·.id)

variable {loops : List LoopingSfx} {loopingSfx : LoopingSfx} {id : String}

theorem find?_loop (hdistinct : (loops.map (·.id)).Nodup) :
    loops.find? (·.id == id) = some loopingSfx ↔ loopingSfx ∈ loops ∧ loopingSfx.id = id := by
  constructor
  · intro hfind
    exact ⟨List.mem_of_find?_eq_some hfind, by simpa using List.find?_some hfind⟩
  · rintro ⟨hmem, rfl⟩
    obtain ⟨found, hfound⟩ : ∃ found, loops.find? (·.id == loopingSfx.id) = some found := by
      rw [← Option.isSome_iff_exists, List.find?_isSome]
      exact ⟨loopingSfx, hmem, beq_self_eq_true _⟩
    have hid : found.id = loopingSfx.id := by simpa using List.find?_some hfound
    rw [hfound, List.inj_on_of_nodup_map hdistinct (List.mem_of_find?_eq_some hfound) hmem hid]

theorem find?_loop_none : loops.find? (·.id == id) = none ↔ id ∉ loops.map (·.id) := by
  rw [List.find?_eq_none, List.mem_map]
  constructor
  · rintro hnone ⟨loopingSfx, hmem, rfl⟩
    exact hnone loopingSfx hmem (beq_self_eq_true _)
  · intro hnot loopingSfx hmem hid
    exact hnot ⟨loopingSfx, hmem, by simpa using hid⟩

theorem cueLoops_ids {state : PlaybackState} {cue : CuePlayback} (h : cueIsValid state cue) :
    (cue.loops.map (·.id)).Nodup ∧
      ∀ id ∈ cue.loops.map (·.id), id.startsWith (cueLoopPrefix cue.cueId) = true := by
  have hnumbered : ∀ i (hi : i < cue.loops.length),
      cue.loops[i].id = cueLoopPrefix cue.cueId ++ Nat.repr i := by
    intro i hi
    unfold cueIsValid at h
    simp only [Bool.and_eq_true] at h
    obtain ⟨⟨-, hloops⟩, -⟩ := h
    have hloop := List.all_eq_true.mp hloops (cue.loops[i], i)
      (List.mk_mem_zipIdx_iff_getElem?.mpr (List.getElem?_eq_getElem hi))
    simp only [Bool.and_eq_true, beq_iff_eq] at hloop
    exact hloop.1
  constructor
  · rw [List.nodup_iff_injective_get]
    intro i j hij
    have hi : i.val < cue.loops.length := by simpa using i.isLt
    have hj : j.val < cue.loops.length := by simpa using j.isLt
    simp only [List.get_eq_getElem, List.getElem_map] at hij
    rw [hnumbered i hi, hnumbered j hj] at hij
    have hrepr : Nat.repr i = Nat.repr j := by
      have hlists := congrArg String.toList hij
      rw [String.toList_append, String.toList_append] at hlists
      exact String.toList_injective (List.append_cancel_left hlists)
    exact Fin.ext (Nat.repr_inj.mp hrepr)
  · intro id hid
    obtain ⟨loopingSfx, hmem, rfl⟩ := List.mem_map.mp hid
    obtain ⟨i, hi, rfl⟩ := List.getElem_of_mem hmem
    rw [hnumbered i hi, String.startsWith_string_iff, String.toList_append]
    exact List.prefix_append _ _

theorem cueIsValid_of_reduce {s : PlaybackState} {cue : CuePlayback} {context : ReductionContext}
    {r : Reduction} (h : reduce s (.fireCue cue) context = .ok r) : cueIsValid s cue = true := by
  obtain ⟨applied, happlied, -⟩ := reduce_eq_ok.mp h
  obtain ⟨fired, hfired, -⟩ := bind_eq_ok.mp happlied
  unfold fireCue at hfired
  split at hfired
  · assumption
  · cases hfired

theorem loopIds_nodup_reduce {s : PlaybackState} {command : PlaybackCommand}
    {context : ReductionContext} {r : Reduction} (h : reduce s command context = .ok r)
    (hdistinct : s.loopIds.Nodup) : r.nextState.loopIds.Nodup := by
  have hsetup : r.nextState.loopIds = (s.setup.apply command).loopingSfx.map (·.id) :=
    congrArg (fun d : Setup => d.loopingSfx.map LoopingSfx.id) (reduce_setup h)
  have hsame : s.setup.loopingSfx.map (·.id) = s.loopIds := rfl
  have hsublist : ∀ p : LoopingSfx → Bool, ((s.setup.loopingSfx.filter p).map (·.id)).Nodup := by
    intro p
    exact hdistinct.sublist (List.filter_sublist.map _)
  rw [hsetup]
  cases command with
  | setActiveMode modeId =>
    have hkept : (s.setup.switchMode modeId).loopingSfx = s.setup.loopingSfx := by
      unfold Setup.switchMode
      split <;> rfl
    simp only [Setup.apply, hkept]
    exact hdistinct
  | startLoop loopingSfx =>
    simp only [Setup.apply, List.map_append, List.map_cons, List.map_nil]
    refine (hsublist _).append (List.nodup_singleton _) ?_
    intro id hkept hstarted
    obtain ⟨existing, hexisting, rfl⟩ := List.mem_map.mp hkept
    have hne := (List.mem_filter.mp hexisting).2
    rw [List.mem_singleton] at hstarted
    rw [hstarted, bne_self_eq_false] at hne
    cases hne
  | stopLoop id => exact hsublist _
  | fireCue cue =>
    obtain ⟨hcue, hpre⟩ := cueLoops_ids (cueIsValid_of_reduce h)
    have hloops : (s.setup.applyCue cue).loopingSfx = s.setup.loopingSfx.filter
        (fun loopingSfx => !loopingSfx.id.startsWith (cueLoopPrefix cue.cueId)) ++ cue.loops := by
      unfold Setup.applyCue
      cases cue.preset <;> rfl
    simp only [Setup.apply, hloops, List.map_append]
    refine (hsublist _).append hcue ?_
    -- the loops that stay are those outside the prefix of the cue
    intro id hkept hstarted
    obtain ⟨existing, hexisting, rfl⟩ := List.mem_map.mp hkept
    have hout := (List.mem_filter.mp hexisting).2
    rw [hpre _ hstarted] at hout
    cases hout
  | _ => exact hdistinct

theorem loops_applyOutputPolicy (s : PlaybackState) (multipleOutputs : Bool) :
    (s.applyOutputPolicy multipleOutputs).1.loopingSfx = s.loopingSfx := by
  unfold PlaybackState.applyOutputPolicy
  simp only
  split <;> rfl

theorem loops_pruneForCatalog {s state : PlaybackState} {catalog : CatalogSnapshot} {nowMs : ℕ}
    {presets changed : Bool}
    (h : pruneForCatalog s catalog nowMs presets = .ok (state, changed)) :
    state.loopingSfx.Sublist s.loopingSfx := by
  obtain ⟨revision, hstate, -⟩ := pruneForCatalog_eq h
  have htracks : (pruneTracks s catalog.tracks nowMs).1.loopingSfx = s.loopingSfx :=
    congrArg Setup.loopingSfx (pruneTracks_setup s catalog.tracks nowMs)
  have hloops : state.loopingSfx =
      (pruneModes (pruneTracks s catalog.tracks nowMs).1 catalog.modes).1.loopingSfx := by
    rw [show state = _ from hstate]
  rw [hloops, ← htracks]
  generalize (pruneTracks s catalog.tracks nowMs).1 = pruned
  cases catalog.modes with
  | none => exact List.Sublist.refl _
  | some modes =>
    have hmode : (pruneActiveMode pruned modes).1.loopingSfx.Sublist pruned.loopingSfx := by
      unfold pruneActiveMode
      split
      · exact List.nil_sublist _
      · exact List.Sublist.refl _
    simp only [pruneModes, loops_applyOutputPolicy]
    exact List.filter_sublist.trans hmode

/-! ## Reconciling -/

/-- After a change a loop has the deadline it had, where it stayed and was not restarted, and
otherwise the end of an interval that begins now. -/
theorem getElem?_reconcileLoopDeadlines (deadlines : BTreeMap String ℕ)
    (previous current : List LoopingSfx) (restartedIds : List String) (nowMs : ℕ) (id : String) :
    (reconcileLoopDeadlines deadlines previous current restartedIds nowMs)[id]? =
      (current.find? (·.id == id)).bind fun loopingSfx =>
        (if !restartedIds.contains id && previous.find? (·.id == id) == some loopingSfx then
          deadlines[id]? else none).or
        (some (saturatingAdd nowMs (loopIntervalMs loopingSfx))) := by
  unfold reconcileLoopDeadlines
  simp only
  rw [getElem?_foldl_insertIfNew (fun loopingSfx : LoopingSfx => loopingSfx.id),
    Std.ExtTreeMap.getElem?_filter']
  generalize current.find? (·.id == id) = found
  rcases found with _ | loopingSfx
  · have hnever : (fun _ : ℕ => !restartedIds.contains id &&
        (none : Option LoopingSfx).any fun loopingSfx =>
          previous.find? (·.id == id) == some loopingSfx) = fun _ => false := by
      funext _
      rw [Option.any_none, Bool.and_false]
    rw [hnever, Option.map_none, Option.or_none, Option.bind_none]
    exact Option.filter_eq_none_iff.mpr fun _ _ h => nomatch h
  · rw [Option.any_some, Option.bind_some, Option.map_some]
    rcases hkept : (!restartedIds.contains id &&
        previous.find? (·.id == id) == some loopingSfx) with _ | _
    · have hnone : deadlines[id]?.filter (fun _ => false) = none :=
        Option.filter_eq_none_iff.mpr fun _ _ h => nomatch h
      rw [hnone]
      rfl
    · have hall : deadlines[id]?.filter (fun _ => true) = deadlines[id]? := by
        cases deadlines[id]? <;> rfl
      rw [hall]
      rfl

/-! ## What a command starts -/

def PlaybackCommand.startedLoops : PlaybackCommand → List LoopingSfx
  | .startLoop loopingSfx => [loopingSfx]
  | .fireCue cue => cue.loops
  | _ => []

theorem restartedLoopIds_append (events more : List DomainEvent) :
    restartedLoopIds (events ++ more) = restartedLoopIds events ++ restartedLoopIds more :=
  List.filterMap_append

theorem restartedLoopIds_started (loops : List LoopingSfx) :
    restartedLoopIds (loops.map .loopStarted) = loops.map (·.id) := by
  induction loops with
  | nil => rfl
  | cons loopingSfx rest ih =>
    rw [List.map_cons, List.map_cons, ← ih]
    rfl

/-- The events of a command start the loops it names; one that starts any is stored at
once. -/
structure Reduction.Starts (r : Reduction) (loops : List LoopingSfx) : Prop where
  events : restartedLoopIds r.events = loops.map (·.id)
  stored : loops ≠ [] → r.changed = true ∧ r.persistence = .immediate

theorem applyCommand_starts {s : PlaybackState} {command : PlaybackCommand}
    {context : ReductionContext} {r : Reduction} (h : applyCommand s command context = .ok r) :
    r.Starts command.startedLoops := by
  cases command with
  | startLoop loopingSfx =>
    cases h
    exact ⟨rfl, fun _ => ⟨rfl, rfl⟩⟩
  | stopLoop id =>
    cases h
    refine ⟨?_, fun hne => absurd rfl hne⟩
    simp only [Reduction.durable]
    split <;> rfl
  | fireCue cue =>
    obtain ⟨⟨next, changed, events⟩, hfired, h⟩ := bind_eq_ok.mp h
    cases h
    unfold fireCue at hfired
    split at hfired
    · obtain ⟨playlist, -, hfired⟩ := bind_eq_ok.mp hfired
      cases hfired
      refine ⟨?_, ?_⟩
      · have hsfx : ∀ sfx : List CueSfx, restartedLoopIds (sfx.map fun sfx =>
            .sfxFired sfx.soundboardId sfx.itemPath sfx.volume) = [] := by
          intro sfx
          unfold restartedLoopIds
          rw [List.filterMap_map]
          exact List.filterMap_eq_nil_iff.mpr fun _ _ => rfl
        simp only [restartedLoopIds_append, restartedLoopIds_started, hsfx, List.append_nil]
        rfl
      · intro hne
        have hnonempty : cue.loops.isEmpty = false := by
          rw [List.isEmpty_eq_false_iff]
          exact hne
        simp only [applyCueLoops, hnonempty, Bool.not_false, Bool.or_true, if_true, and_self]
    · cases hfired
  | presetsChanged | ambientPlayTrack | ambientJumpQueue | ambientSkipNext | ambientSkipPrevious
  | ambientSeek | ambientStop | ambientPlaySequence | fireInterruptSequence | interruptSkipNext
  | interruptSeek | cancelInterrupt =>
    obtain ⟨next, -, h⟩ := bind_eq_ok.mp h
    cases h
    exact ⟨rfl, fun hne => absurd rfl hne⟩
  | _ =>
    cases h
    exact ⟨rfl, fun hne => absurd rfl hne⟩

theorem Reduction.Starts.settle {r : Reduction} {loops : List LoopingSfx} (h : r.Starts loops) :
    r.settle.Starts loops := by
  unfold Reduction.settle
  split
  · next hquiet =>
    rw [Bool.and_eq_true, Bool.not_eq_true'] at hquiet
    refine ⟨h.events, ?_⟩
    intro hne
    rw [(h.stored hne).1] at hquiet
    exact absurd hquiet.1 (by decide)
  · exact h

theorem Reduction.Starts.withOutputPolicy {r : Reduction} {loops : List LoopingSfx}
    (h : r.Starts loops) (catalog : CatalogSnapshot) :
    (MusicServer.withOutputPolicy catalog r).Starts loops := by
  unfold MusicServer.withOutputPolicy
  split
  · exact h
  · refine ⟨h.events, ?_⟩
    intro hne
    obtain ⟨hchanged, himmediate⟩ := h.stored hne
    refine ⟨?_, himmediate⟩
    simp only [hchanged, Bool.true_or]

theorem loops_withOutputPolicy (catalog : CatalogSnapshot) (r : Reduction) :
    (withOutputPolicy catalog r).nextState.loopingSfx = r.nextState.loopingSfx := by
  unfold withOutputPolicy
  split
  · rfl
  · exact loops_applyOutputPolicy _ _

theorem decideCommand_loops {a : PlaybackActor} {resolved : ResolvedPlaybackCommand}
    {draw : Draw} {sample : ClockSample} {reduction : Reduction}
    (h : decideCommand a resolved draw = .ok (sample, reduction)) :
    reduction.Starts resolved.command.startedLoops ∧
      (a.state.loopIds.Nodup → reduction.nextState.loopIds.Nodup) ∧
      reduction.nextState.loopingSfx = (a.state.setup.apply resolved.command).loopingSfx := by
  obtain ⟨-, -, -, r, hr, rfl⟩ := decideCommand_eq_ok h
  obtain ⟨applied, happlied, rfl⟩ := reduce_eq_ok.mp hr
  have hloops := loops_withOutputPolicy a.catalog applied.settle
  refine ⟨(applyCommand_starts happlied).settle.withOutputPolicy a.catalog, ?_, ?_⟩
  · intro hdistinct
    have hids : (withOutputPolicy a.catalog applied.settle).nextState.loopIds =
        applied.settle.nextState.loopIds := congrArg (List.map LoopingSfx.id) hloops
    rw [hids]
    exact loopIds_nodup_reduce hr hdistinct
  · rw [hloops]
    exact congrArg Setup.loopingSfx (reduce_setup hr)

/-! ## The loops and deadlines of the owner -/

/-- The ids of the loops are distinct, and the deadlines are those of the loops. -/
structure PlaybackActor.LoopsTimed (a : PlaybackActor) : Prop where
  distinct : a.state.loopIds.Nodup
  keys : ∀ id, id ∈ a.loopDeadlinesMs ↔ id ∈ a.state.loopIds

def ActorEffect.event? {Text : Type} : ActorEffect Text → Option DomainEvent
  | .emitted event => some event
  | _ => none

namespace World

variable {Text : Type}

def emitted (w : World Text) : List DomainEvent := w.effects.filterMap ActorEffect.event?

/-- The events that came after those of an earlier world. -/
def emittedSince (w earlier : World Text) : List DomainEvent :=
  w.emitted.drop earlier.emitted.length

/-- What a turn does to the loops and their deadlines: nothing, or it changes the loops,
reads the clock and reconciles the deadlines. -/
inductive LoopsStep (a a' : PlaybackActor) (sample : Except PlaybackActorError ClockSample)
    (events : List DomainEvent) : Prop where
  | kept (hloops : a'.state.loopingSfx = a.state.loopingSfx)
      (hdeadlines : a'.loopDeadlinesMs = a.loopDeadlinesMs)
      (hstarted : restartedLoopIds events = [])
  | reconciled {clock : ClockSample} (hsample : sample = .ok clock)
      (hdistinct : a.state.loopIds.Nodup → a'.state.loopIds.Nodup)
      (hdeadlines : a'.loopDeadlinesMs = reconcileLoopDeadlines a.loopDeadlinesMs
        a.state.loopingSfx a'.state.loopingSfx (restartedLoopIds events) clock.monotonicMs)

structure Turned (w w' : World Text) (sample : Except PlaybackActorError ClockSample)
    (events : List DomainEvent) : Prop where
  emitted : w'.emitted = w.emitted ++ events
  loops : LoopsStep w.actor w'.actor sample events

theorem Turned.idle {w w' : World Text} {sample : Except PlaybackActorError ClockSample}
    (hemitted : w'.emitted = w.emitted)
    (hloops : w'.actor.state.loopingSfx = w.actor.state.loopingSfx)
    (hdeadlines : w'.actor.loopDeadlinesMs = w.actor.loopDeadlinesMs) :
    Turned w w' sample [] := by
  refine ⟨?_, .kept hloops hdeadlines rfl⟩
  rw [hemitted, List.append_nil]

theorem emitted_publish (w : World Text) (sample : ClockSample) :
    (w.publish sample).emitted = w.emitted := by
  unfold emitted publish
  rw [List.filterMap_append]
  exact List.append_nil _

theorem emitted_emitEvents (w : World Text) (events : List DomainEvent) :
    (w.emitEvents events).emitted = w.emitted ++ events := by
  have hevents : (events.map (@ActorEffect.emitted Text)).filterMap ActorEffect.event? =
      events := by
    rw [List.filterMap_map]
    exact List.filterMap_some
  unfold emitted emitEvents
  rw [List.filterMap_append, hevents]

variable (codec : JsonCodec Text)

theorem emitted_persistCandidate (w : World Text) (state : PlaybackState) (nowMs : ℕ)
    (fault : StoreFault) :
    (w.persistCandidate codec state nowMs fault).1.emitted = w.emitted :=
  filterMap_persistCandidate codec (fun _ => rfl) w state nowMs fault

theorem turned_persistCandidate {w w' : World Text} {state : PlaybackState} {nowMs : ℕ}
    {fault : StoreFault} {result : Except PlaybackActorError Unit}
    {sample : Except PlaybackActorError ClockSample}
    (h : w.persistCandidate codec state nowMs fault = (w', result)) :
    Turned w w' sample [] ∧ w'.actor.loopDeadlinesMs = w.actor.loopDeadlinesMs ∧
      w'.actor.state = w.actor.state := by
  have hemitted := emitted_persistCandidate codec w state nowMs fault
  obtain ⟨revision, hactor⟩ := actor_persistCandidate codec w state nowMs fault
  rw [h] at hemitted hactor
  simp only at hemitted hactor
  refine ⟨.idle hemitted ?_ ?_, ?_, ?_⟩
  all_goals rw [hactor]

theorem commit_turned {w : World Text} {clock : ClockSample} {reduction : Reduction}
    {fault : StoreFault} {sample : Except PlaybackActorError ClockSample}
    (hsample : sample = .ok clock) {loops : List LoopingSfx} (hstarts : reduction.Starts loops)
    (hdistinct : w.actor.state.loopIds.Nodup → reduction.nextState.loopIds.Nodup)
    (hkept : reduction.persistence = .throttled →
      reduction.nextState.loopingSfx = w.actor.state.loopingSfx) :
    ∃ events, (events = [] ∨ events = reduction.events) ∧
      Turned w (w.commit codec clock reduction fault).1 sample events := by
  have hquiet : reduction.changed = false ∨ reduction.persistence ≠ .immediate →
      restartedLoopIds reduction.events = [] := by
    intro h
    rw [hstarts.events]
    by_contra hne
    obtain ⟨hchanged, himmediate⟩ := hstarts.stored fun hnil => hne (by rw [hnil]; rfl)
    rcases h with h | h
    · rw [hchanged] at h
      cases h
    · exact h himmediate
  unfold commit
  split
  · next hnone =>
    refine ⟨reduction.events, .inr rfl, emitted_emitEvents w _,
      .kept rfl rfl (hquiet (.inr ?_))⟩
    rw [hnone]
    decide
  · next hthrottled =>
    refine ⟨reduction.events, .inr rfl, emitted_emitEvents _ _,
      .kept (hkept hthrottled) rfl (hquiet (.inr ?_))⟩
    rw [hthrottled]
    decide
  split
  · next hunchanged =>
    rw [Bool.not_eq_true'] at hunchanged
    exact ⟨reduction.events, .inr rfl, emitted_emitEvents w _,
      .kept rfl rfl (hquiet (.inl hunchanged))⟩
  split
  · exact ⟨[], .inl rfl, .idle rfl rfl rfl⟩
  next candidate hcandidate =>
  have hloops : candidate.loopingSfx = reduction.nextState.loopingSfx :=
    congrArg Setup.loopingSfx (commitCandidate_upToRevision hcandidate).setup
  split
  · next hpersist => exact ⟨[], .inl rfl, (turned_persistCandidate codec hpersist).1⟩
  · next stored hpersist =>
    have hwritten : Turned w stored sample [] ∧ stored.actor.loopDeadlinesMs =
        w.actor.loopDeadlinesMs ∧ stored.actor.state = w.actor.state :=
      turned_persistCandidate codec hpersist
    obtain ⟨hturned, hdeadlines, hstate⟩ := hwritten
    have hemitted := hturned.emitted
    rw [List.append_nil] at hemitted
    refine ⟨reduction.events, .inr rfl, ?_, ?_⟩
    · simp only
      rw [emitted_emitEvents]
      split
      · rw [emitted_publish]
        exact congrArg (· ++ reduction.events) hemitted
      · exact congrArg (· ++ reduction.events) hemitted
    · refine .reconciled hsample ?_ ?_
      · intro h
        have hids : candidate.loopIds = reduction.nextState.loopIds :=
          congrArg (List.map LoopingSfx.id) hloops
        simp only
        split
        · exact hids ▸ hdistinct h
        · exact hids ▸ hdistinct h
      · simp only [← hdeadlines, ← hstate]
        split <;> rfl


theorem loops_throttled {a : PlaybackActor} {resolved : ResolvedPlaybackCommand} {draw : Draw}
    {clock : ClockSample} {reduction : Reduction}
    (h : decideCommand a resolved draw = .ok (clock, reduction))
    (hthrottled : reduction.persistence = .throttled) :
    reduction.nextState.loopingSfx = a.state.loopingSfx := by
  obtain ⟨-, -, hloops⟩ := decideCommand_loops h
  obtain ⟨-, -, -, r, hr, rfl⟩ := decideCommand_eq_ok h
  obtain ⟨applied, happlied, rfl⟩ := reduce_eq_ok.mp hr
  rw [persistence_withOutputPolicy] at hthrottled
  rw [persistence_settle (by rw [hthrottled]; decide)] at hthrottled
  obtain ⟨deviceId, positionMs, hcommand⟩ := applyCommand_throttled_report happlied hthrottled
  rw [hloops, hcommand]
  rfl

theorem execute_turned (w : World Text) (resolved : ResolvedPlaybackCommand) (draw : Draw) :
    ∃ events, (events = [] ∨ ∃ clock reduction,
        decideCommand w.actor resolved draw = .ok (clock, reduction) ∧
          events = reduction.events) ∧
      Turned w (w.execute codec resolved draw).1 draw.sample events := by
  unfold execute
  split
  · exact ⟨[], .inl rfl, .idle rfl rfl rfl⟩
  · next clock reduction hdecided =>
    obtain ⟨hstarts, hdistinct, -⟩ := decideCommand_loops hdecided
    obtain ⟨events, hevents, hturned⟩ := @commit_turned Text codec w clock reduction draw.store
      draw.sample (sample_of_decide hdecided).1 resolved.command.startedLoops hstarts hdistinct
      (loops_throttled hdecided)
    refine ⟨events, ?_, hturned⟩
    exact hevents.imp_right fun h => ⟨clock, reduction, hdecided, h⟩

theorem loops_reduceDirect {s : PlaybackState} {command : PlaybackCommand} {sample : ClockSample}
    {r : PlaybackState × Bool} (h : reduceDirect s command sample = .ok r)
    (hcommand : (s.setup.apply command).loopingSfx = s.loopingSfx) :
    r.1.loopingSfx = s.loopingSfx := by
  unfold reduceDirect at h
  split at h
  · next reduction hreduced =>
    cases h
    exact (congrArg Setup.loopingSfx (reduce_setup hreduced)).trans hcommand
  · cases h

theorem loops_registeredState {s : PlaybackState} {connections : Connections}
    {connectionId : ConnectionId} {previous : Option ClientRegistration}
    {registration : ClientRegistration} {sample : ClockSample} {r : PlaybackState × Bool}
    (h : registeredState s connections connectionId previous registration sample = .ok r) :
    r.1.loopingSfx = s.loopingSfx := by
  obtain ⟨removed, hremoved, heq⟩ :=
    registeredState_eq s connections connectionId previous registration sample
  rw [heq] at h
  cases h
  have hregistered := loops_reduceDirect
    (reduceDirect_registerDevice removed.1 registration.clientId registration.isDefaultOutput
      sample) rfl
  rcases hremoved with ⟨rfl, -⟩ | ⟨p, -, -, rfl⟩
  · exact hregistered
  · exact hregistered.trans
      (loops_reduceDirect (reduceDirect_removeActiveOutput s p.clientId sample) rfl)

theorem loops_disconnectedState {s : PlaybackState} {connections : Connections}
    {registration : Option ClientRegistration} {sample : ClockSample} {r : PlaybackState × Bool}
    (h : disconnectedState s connections registration sample = .ok r) :
    r.1.loopingSfx = s.loopingSfx := by
  unfold disconnectedState at h
  split at h
  · split at h
    · exact loops_reduceDirect h rfl
    · cases h
      rfl
  · cases h
    rfl

theorem commitExternalChange_turned {w : World Text} {state : PlaybackState}
    (connections : Connections) (durableChanged presenceChanged : Bool) (clock : ClockSample)
    (fault : StoreFault) (sample : Except PlaybackActorError ClockSample)
    (hloops : state.loopingSfx = w.actor.state.loopingSfx) :
    Turned w (w.commitExternalChange codec state connections durableChanged presenceChanged
      clock fault).1 sample [] := by
  unfold commitExternalChange
  split
  · exact .idle rfl rfl rfl
  split
  · exact .idle rfl rfl rfl
  next candidate hcandidate =>
  have hcandidateLoops : candidate.loopingSfx = state.loopingSfx :=
    congrArg Setup.loopingSfx (bumpPublicationRevision_upToRevision hcandidate).setup
  unfold persistExternalChange
  split
  · next hpersist =>
    split at hpersist
    · split at hpersist
      · cases hpersist
      · next hwritten =>
        cases hpersist
        exact (turned_persistCandidate codec hwritten).1
    · cases hpersist
  · next stored hpersist =>
    have hstored : stored.emitted = w.emitted ∧
        stored.actor.loopDeadlinesMs = w.actor.loopDeadlinesMs := by
      split at hpersist
      · split at hpersist
        · next written hwritten =>
          cases hpersist
          have hturned : Turned w written sample [] ∧ written.actor.loopDeadlinesMs =
              w.actor.loopDeadlinesMs ∧ written.actor.state = w.actor.state :=
            turned_persistCandidate codec hwritten
          refine ⟨?_, hturned.2.1⟩
          have hemitted := hturned.1.emitted
          rw [List.append_nil] at hemitted
          exact hemitted
        · cases hpersist
      · cases hpersist
        exact ⟨rfl, rfl⟩
    refine .idle ?_ (hcandidateLoops.trans hloops) hstored.2
    rw [emitted_publish]
    exact hstored.1

theorem registerConnection_turned (w : World Text) (connectionId : ConnectionId)
    (registration : ClientRegistration) (draw : Draw) :
    Turned w (w.registerConnection codec connectionId registration draw).1 draw.sample [] := by
  unfold registerConnection
  split
  · exact .idle rfl rfl rfl
  split
  · exact .idle rfl rfl rfl
  split
  · exact .idle rfl rfl rfl
  split
  · exact .idle rfl rfl rfl
  simp only
  split
  · exact .idle rfl rfl rfl
  next state durableChanged hregistered =>
  exact commitExternalChange_turned codec _ _ _ _ _ _ (loops_registeredState hregistered)

theorem disconnect_turned (w : World Text) (connectionId : ConnectionId) (draw : Draw) :
    Turned w (w.disconnect codec connectionId draw).1 draw.sample [] := by
  unfold disconnect
  split
  · exact .idle rfl rfl rfl
  split
  · exact .idle rfl rfl rfl
  simp only
  split
  · exact .idle rfl rfl rfl
  next state durableChanged hdisconnected =>
  exact commitExternalChange_turned codec _ _ _ _ _ _ (loops_disconnectedState hdisconnected)

theorem refreshClientMetadata_turned (w : World Text) (clientId : String)
    (rememberedName : Option String) (isDefaultOutput : Bool) (draw : Draw) :
    Turned w (w.refreshClientMetadata clientId rememberedName isDefaultOutput draw).1
      draw.sample [] := by
  unfold refreshClientMetadata
  split
  · exact .idle rfl rfl rfl
  simp only
  split
  · split
    · exact .idle rfl rfl rfl
    · exact .idle (emitted_publish _ _) rfl rfl
  · exact .idle rfl rfl rfl

theorem replaceCatalog_turned (w : World Text) (catalog : CatalogSnapshot) (presets : Bool)
    (draw : Draw) :
    Turned w (w.replaceCatalog codec catalog presets draw).1 draw.sample [] := by
  unfold replaceCatalog
  split
  · exact .idle rfl rfl rfl
  split
  · exact .idle rfl rfl rfl
  split
  · exact .idle rfl rfl rfl
  next clock hclock =>
  split
  · exact .idle rfl rfl rfl
  next candidate changed hpruned =>
  split
  · exact .idle rfl rfl rfl
  split
  · exact .idle rfl rfl rfl
  next bumped hbumped =>
  have hloops : bumped.loopingSfx = candidate.loopingSfx :=
    congrArg Setup.loopingSfx (bumpPublicationRevision_upToRevision hbumped).setup
  split
  · next hpersist => exact (turned_persistCandidate codec hpersist).1
  · next stored hpersist =>
    have hturned : Turned w stored draw.sample [] ∧ stored.actor.loopDeadlinesMs =
        w.actor.loopDeadlinesMs ∧ stored.actor.state = w.actor.state :=
      turned_persistCandidate codec hpersist
    refine ⟨?_, .reconciled hclock ?_ ?_⟩
    · rw [emitted_publish]
      exact hturned.1.emitted
    · intro hdistinct
      have hsublist : bumped.loopingSfx.Sublist w.actor.state.loopingSfx := by
        rw [hloops]
        exact loops_pruneForCatalog hpruned
      exact hdistinct.sublist (hsublist.map LoopingSfx.id)
    · have hreconciled : reconcileLoopDeadlines stored.actor.loopDeadlinesMs
          stored.actor.state.loopingSfx bumped.loopingSfx [] clock.monotonicMs =
          reconcileLoopDeadlines w.actor.loopDeadlinesMs w.actor.state.loopingSfx
            bumped.loopingSfx [] clock.monotonicMs := by
        rw [hturned.2.1, hturned.2.2]
      exact hreconciled

theorem flushPosition_turned (w : World Text) (draw : Draw) :
    Turned w (w.flushPosition codec draw).1 draw.sample [] := by
  unfold flushPosition
  split
  · exact .idle rfl rfl rfl
  split
  · exact .idle rfl rfl rfl
  split
  · next hpersist => exact (turned_persistCandidate codec hpersist).1
  · next stored hpersist =>
    have hturned : Turned w stored draw.sample [] ∧ stored.actor.loopDeadlinesMs =
        w.actor.loopDeadlinesMs ∧ stored.actor.state = w.actor.state :=
      turned_persistCandidate codec hpersist
    have hemitted := hturned.1.emitted
    rw [List.append_nil] at hemitted
    exact .idle hemitted (congrArg PlaybackState.loopingSfx hturned.2.2) hturned.2.1

theorem handleMessage_turned (w : World Text) (message : ActorMessage) (draw : Draw) :
    ∃ events, Turned w (w.handleMessage codec message draw).1 draw.sample events := by
  cases message with
  | execute command =>
    obtain ⟨events, -, hturned⟩ := execute_turned codec w command draw
    exact ⟨events, hturned⟩
  | snapshot =>
    refine ⟨[], ?_⟩
    unfold handleMessage
    simp only
    split
    · refine .idle ?_ rfl rfl
      unfold emitted
      rw [List.filterMap_append]
      exact List.append_nil _
    · exact .idle rfl rfl rfl
  | ambientSkipNext expectedTrackId =>
    obtain ⟨events, -, hturned⟩ := execute_turned codec w (.atGeneration
      (.ambientSkipNext (followNextId w.actor w.actor.state.ambient.currentTrackId)
        expectedTrackId) w.actor.catalog.generation) draw
    exact ⟨events, hturned⟩
  | openConnection =>
    refine ⟨[], ?_⟩
    unfold handleMessage openConnection
    simp only
    split <;> exact .idle rfl rfl rfl
  | registerConnection connectionId registration =>
    exact ⟨[], registerConnection_turned codec w connectionId registration draw⟩
  | refreshClientMetadata clientId rememberedName isDefaultOutput =>
    exact ⟨[], refreshClientMetadata_turned w clientId rememberedName isDefaultOutput draw⟩
  | disconnect connectionId => exact ⟨[], disconnect_turned codec w connectionId draw⟩
  | replaceCatalog catalog presets =>
    exact ⟨[], replaceCatalog_turned codec w catalog presets draw⟩
  | replaceLibraryCatalog generation tracks =>
    exact ⟨[], replaceCatalog_turned codec w _ _ draw⟩
  | replaceModeCatalog publication => exact ⟨[], replaceCatalog_turned codec w _ _ draw⟩

end World

end MusicServer
