/-
# Loop deadlines over a run

In every run of the owner the loops have distinct ids and the deadlines are those of the
loops (`PlaybackActor.LoopsTimed`).  A message keeps the deadline of a loop that it neither
starts nor changes, and gives any other a whole interval; a pass over the due effects fires
each due loop once and moves its deadline on (`loop_deadlines`).
-/
import MusicServer.LoopDeadlines

namespace MusicServer

open Transition

/-! ## One step -/

/-- A loop a turn has started: the owner has told of it. -/
def World.Starts {Text : Type} (w w' : World Text) (id : String) : Prop :=
  ∃ loopingSfx, DomainEvent.loopStarted loopingSfx ∈ w'.emittedSince w ∧ loopingSfx.id = id

theorem mem_restartedLoopIds {events : List DomainEvent} {id : String} :
    id ∈ restartedLoopIds events ↔
      ∃ loopingSfx, DomainEvent.loopStarted loopingSfx ∈ events ∧ loopingSfx.id = id := by
  unfold restartedLoopIds
  rw [List.mem_filterMap]
  constructor
  · rintro ⟨event, hevent, hid⟩
    cases event with
    | loopStarted loopingSfx => exact ⟨loopingSfx, hevent, Option.some.inj hid⟩
    | _ => cases hid
  · rintro ⟨loopingSfx, hevent, rfl⟩
    exact ⟨_, hevent, rfl⟩

section

variable {a a' : PlaybackActor} {sample : Except PlaybackActorError ClockSample}
variable {events : List DomainEvent} {loopingSfx : LoopingSfx}

theorem PlaybackActor.LoopsTimed.find? (h : a.LoopsTimed)
    (hloop : loopingSfx ∈ a.state.loopingSfx) :
    a.state.loopingSfx.find? (·.id == loopingSfx.id) = some loopingSfx :=
  (find?_loop h.distinct).mpr ⟨hloop, rfl⟩

theorem PlaybackActor.LoopsTimed.deadline (h : a.LoopsTimed)
    (hloop : loopingSfx ∈ a.state.loopingSfx) :
    ∃ deadline, a.loopDeadlinesMs[loopingSfx.id]? = some deadline := by
  have hid : loopingSfx.id ∈ a.state.loopIds := List.mem_map_of_mem hloop
  rw [← Option.isSome_iff_exists, ← Std.ExtTreeMap.mem_iff_isSome_getElem?]
  exact (h.keys _).mpr hid

theorem PlaybackActor.LoopsTimed.step (h : a.LoopsTimed)
    (hstep : World.LoopsStep a a' sample events) : a'.LoopsTimed := by
  cases hstep with
  | kept hloops hdeadlines =>
    have hids : a'.state.loopIds = a.state.loopIds := congrArg (List.map LoopingSfx.id) hloops
    constructor
    · rw [hids]
      exact h.distinct
    · intro id
      rw [hdeadlines, hids]
      exact h.keys id
  | reconciled hsample hdistinct hdeadlines =>
    refine ⟨hdistinct h.distinct, ?_⟩
    intro id
    rw [Std.ExtTreeMap.mem_iff_isSome_getElem?, hdeadlines, getElem?_reconcileLoopDeadlines]
    rcases hfind : a'.state.loopingSfx.find? (·.id == id) with _ | loopingSfx
    · rw [hfind, Option.bind_none]
      constructor
      · intro hsome
        cases hsome
      · intro hid
        exact absurd hid (find?_loop_none.mp hfind)
    · rw [hfind, Option.bind_some, Option.isSome_or, Option.isSome_some, Bool.or_true]
      have hid := (find?_loop (hdistinct h.distinct)).mp hfind
      exact iff_of_true rfl (List.mem_map.mpr ⟨loopingSfx, hid⟩)

theorem PlaybackActor.LoopsTimed.kept (h : a.LoopsTimed)
    (hstep : World.LoopsStep a a' sample events) (hloop : loopingSfx ∈ a'.state.loopingSfx)
    (hbefore : loopingSfx ∈ a.state.loopingSfx)
    (hrestarted : loopingSfx.id ∉ restartedLoopIds events) :
    a'.loopDeadlinesMs[loopingSfx.id]? = a.loopDeadlinesMs[loopingSfx.id]? := by
  have hafter := (h.step hstep).find? hloop
  cases hstep with
  | kept hloops hdeadlines => rw [hdeadlines]
  | reconciled hsample hdistinct hdeadlines =>
    obtain ⟨deadline, hdeadline⟩ := h.deadline hbefore
    have hstayed : (!(restartedLoopIds events).contains loopingSfx.id &&
        a.state.loopingSfx.find? (·.id == loopingSfx.id) == some loopingSfx) = true := by
      rw [h.find? hbefore, Bool.and_eq_true, Bool.not_eq_true']
      refine ⟨?_, beq_self_eq_true _⟩
      rw [List.contains_eq_mem]
      exact decide_eq_false hrestarted
    rw [hdeadlines, getElem?_reconcileLoopDeadlines, hafter, Option.bind_some, if_pos hstayed,
      hdeadline, Option.some_or]

theorem PlaybackActor.LoopsTimed.begun (h : a.LoopsTimed)
    (hstep : World.LoopsStep a a' sample events) (hloop : loopingSfx ∈ a'.state.loopingSfx)
    (hnew : loopingSfx ∉ a.state.loopingSfx ∨ loopingSfx.id ∈ restartedLoopIds events) :
    ∃ clock, sample = .ok clock ∧ a'.loopDeadlinesMs[loopingSfx.id]? =
      some (saturatingAdd clock.monotonicMs (loopIntervalMs loopingSfx)) := by
  have hafter := (h.step hstep).find? hloop
  cases hstep with
  | kept hloops hdeadlines hstarted =>
    rcases hnew with hnew | hnew
    · rw [hloops] at hloop
      exact absurd hloop hnew
    · rw [hstarted] at hnew
      cases hnew
  | @reconciled clock hsample hdistinct hdeadlines =>
    have hchanged : ¬ (!(restartedLoopIds events).contains loopingSfx.id &&
        a.state.loopingSfx.find? (·.id == loopingSfx.id) == some loopingSfx) = true := by
      rw [Bool.and_eq_true, Bool.not_eq_true', beq_iff_eq]
      rintro ⟨hnot, hfind⟩
      rcases hnew with hnew | hnew
      · exact hnew ((find?_loop h.distinct).mp hfind).1
      · rw [List.contains_eq_mem] at hnot
        exact of_decide_eq_false hnot hnew
    refine ⟨clock, hsample, ?_⟩
    rw [hdeadlines, getElem?_reconcileLoopDeadlines, hafter, Option.bind_some, if_neg hchanged,
      Option.none_or]

end

/-! ## The due loops -/

def LoopingSfx.fired (loopingSfx : LoopingSfx) : DomainEvent :=
  .sfxFired loopingSfx.soundboardId loopingSfx.itemPath loopingSfx.volume

namespace World

variable {Text : Type}

theorem fireDueLoop_eq {w : World Text} {loopingSfx : LoopingSfx} {id : String}
    (hfind : w.actor.state.loopingSfx.find? (·.id == id) = some loopingSfx)
    (sample : ClockSample) :
    (fireDueLoop sample w id).actor = { w.actor with
        loopDeadlinesMs := w.actor.loopDeadlinesMs.insert id
          (saturatingAdd sample.monotonicMs (loopIntervalMs loopingSfx)) } ∧
      (fireDueLoop sample w id).emitted = w.emitted ++ [loopingSfx.fired] := by
  unfold fireDueLoop
  rw [hfind]
  exact ⟨rfl, emitted_emitEvents _ _⟩

theorem foldl_fireDueLoop (sample : ClockSample) (due : List LoopingSfx) (w : World Text)
    (hdistinct : w.actor.state.loopIds.Nodup)
    (hdue : ∀ loopingSfx ∈ due, loopingSfx ∈ w.actor.state.loopingSfx) :
    ((due.map (·.id)).foldl (fireDueLoop sample) w).actor.state = w.actor.state ∧
    ((due.map (·.id)).foldl (fireDueLoop sample) w).emitted =
      w.emitted ++ due.map (·.fired) ∧
    (∀ id, id ∉ due.map (·.id) →
      ((due.map (·.id)).foldl (fireDueLoop sample) w).actor.loopDeadlinesMs[id]? =
        w.actor.loopDeadlinesMs[id]?) ∧
    (due.Nodup → ∀ loopingSfx ∈ due,
      ((due.map (·.id)).foldl (fireDueLoop sample) w).actor.loopDeadlinesMs[loopingSfx.id]? =
        some (saturatingAdd sample.monotonicMs (loopIntervalMs loopingSfx))) := by
  induction due generalizing w with
  | nil => exact ⟨rfl, (List.append_nil _).symm, fun _ _ => rfl, fun _ _ hnil => nomatch hnil⟩
  | cons first rest ih =>
    have hfind := (find?_loop hdistinct).mpr ⟨hdue first List.mem_cons_self, rfl⟩
    obtain ⟨hactor, hemitted⟩ := fireDueLoop_eq hfind sample
    have hstate : (fireDueLoop sample w first.id).actor.state = w.actor.state := by rw [hactor]
    obtain ⟨hstate', hemitted', hothers, hfired⟩ := ih (fireDueLoop sample w first.id)
      (by rw [hstate]; exact hdistinct)
      (by
        rw [hstate]
        exact fun loopingSfx hmem => hdue loopingSfx (List.mem_cons_of_mem first hmem))
    rw [List.map_cons, List.foldl_cons]
    refine ⟨hstate'.trans hstate, ?_, ?_, ?_⟩
    · rw [hemitted', hemitted, List.append_assoc]
      rfl
    · intro id hid
      rw [List.mem_cons, not_or] at hid
      rw [hothers id hid.2, hactor]
      simp only
      rw [Std.ExtTreeMap.getElem?_insert,
        if_neg fun heq => hid.1 (Std.LawfulEqCmp.eq_of_compare heq).symm]
    · intro hnodup loopingSfx hmem
      rw [List.nodup_cons] at hnodup
      rcases List.mem_cons.mp hmem with rfl | hmem
      · have hid : loopingSfx.id ∉ rest.map (·.id) := by
          rintro hid
          obtain ⟨other, hother, hsame⟩ := List.mem_map.mp hid
          have heq := List.inj_on_of_nodup_map hdistinct
            (hdue other (List.mem_cons_of_mem _ hother)) (hdue loopingSfx List.mem_cons_self) hsame
          exact hnodup.1 (heq ▸ hother)
        rw [hothers _ hid, hactor]
        exact Std.ExtTreeMap.getElem?_insert_self
      · exact hfired hnodup.2 loopingSfx hmem

def dueLoops (w : World Text) (sample : ClockSample) : List LoopingSfx :=
  ((w.actor.loopDeadlinesMs.toList.filter (·.2 ≤ sample.monotonicMs)).map (·.1)).filterMap
    fun id => w.actor.state.loopingSfx.find? (·.id == id)

theorem map_id_filterMap_find? {loops : List LoopingSfx} {ids : List String}
    (hids : ∀ id ∈ ids, id ∈ loops.map (·.id)) :
    (ids.filterMap fun id => loops.find? (·.id == id)).map (·.id) = ids := by
  induction ids with
  | nil => rfl
  | cons id rest ih =>
    obtain ⟨loopingSfx, hfind⟩ : ∃ loopingSfx, loops.find? (·.id == id) = some loopingSfx := by
      rw [← Option.ne_none_iff_exists']
      intro hnone
      exact find?_loop_none.mp hnone (hids id List.mem_cons_self)
    have hid : loopingSfx.id = id := by simpa using List.find?_some hfind
    have hfirst : ((id :: rest).filterMap fun id => loops.find? (·.id == id)) =
        loopingSfx :: rest.filterMap fun id => loops.find? (·.id == id) :=
      List.filterMap_cons_some hfind
    rw [hfirst, List.map_cons, hid, ih fun id hmem => hids id (List.mem_cons_of_mem _ hmem)]

section

variable {w : World Text} (h : w.actor.LoopsTimed) (sample : ClockSample)

include h

theorem dueLoopIds_eq :
    (w.actor.loopDeadlinesMs.toList.filter (·.2 ≤ sample.monotonicMs)).map (·.1) =
      (w.dueLoops sample).map (·.id) := by
  refine (map_id_filterMap_find? ?_).symm
  intro id hid
  obtain ⟨⟨id, deadline⟩, hmem, rfl⟩ := List.mem_map.mp hid
  have hsome := Std.ExtTreeMap.mem_toList_iff_getElem?_eq_some.mp (List.mem_filter.mp hmem).1
  apply (h.keys id).mp
  rw [Std.ExtTreeMap.mem_iff_isSome_getElem?, hsome]
  rfl

theorem nodup_dueLoops : (w.dueLoops sample).Nodup := by
  have hkeys : ((w.actor.loopDeadlinesMs.toList.filter
      (·.2 ≤ sample.monotonicMs)).map (·.1)).Nodup := by
    refine List.pairwise_map.mpr ((Std.ExtTreeMap.distinct_keys_toList.imp ?_).filter _)
    intro a b hne heq
    exact hne (Std.LawfulEqCmp.compare_eq_iff_eq.mpr heq)
  rw [dueLoopIds_eq h sample] at hkeys
  exact List.Nodup.of_map _ hkeys

theorem mem_dueLoops {loopingSfx : LoopingSfx} :
    loopingSfx ∈ w.dueLoops sample ↔ loopingSfx ∈ w.actor.state.loopingSfx ∧
      ∃ deadline, w.actor.loopDeadlinesMs[loopingSfx.id]? = some deadline ∧
        deadline ≤ sample.monotonicMs := by
  unfold dueLoops
  rw [List.mem_filterMap]
  constructor
  · rintro ⟨id, hid, hfind⟩
    obtain ⟨hmem, rfl⟩ := (find?_loop h.distinct).mp hfind
    obtain ⟨⟨id, deadline⟩, hentry, hkey⟩ := List.mem_map.mp hid
    obtain ⟨hentry, hdue⟩ := List.mem_filter.mp hentry
    have hsome := Std.ExtTreeMap.mem_toList_iff_getElem?_eq_some.mp hentry
    simp only at hkey
    rw [hkey] at hsome
    exact ⟨hmem, deadline, hsome, of_decide_eq_true hdue⟩
  · rintro ⟨hmem, deadline, hsome, hdue⟩
    refine ⟨loopingSfx.id, List.mem_map.mpr ⟨(loopingSfx.id, deadline), ?_, rfl⟩, h.find? hmem⟩
    rw [List.mem_filter]
    exact ⟨Std.ExtTreeMap.mem_toList_iff_getElem?_eq_some.mpr hsome, decide_eq_true hdue⟩

theorem fireDueLoops_spec :
    (w.fireDueLoops sample).actor.LoopsTimed ∧
    (w.fireDueLoops sample).actor.state = w.actor.state ∧
    (w.fireDueLoops sample).emitted = w.emitted ++ (w.dueLoops sample).map (·.fired) ∧
    ∀ loopingSfx ∈ w.actor.state.loopingSfx,
      (w.fireDueLoops sample).actor.loopDeadlinesMs[loopingSfx.id]? =
        if loopingSfx ∈ w.dueLoops sample then
          some (saturatingAdd sample.monotonicMs (loopIntervalMs loopingSfx))
        else w.actor.loopDeadlinesMs[loopingSfx.id]? := by
  have hdue : ∀ loopingSfx ∈ w.dueLoops sample, loopingSfx ∈ w.actor.state.loopingSfx :=
    fun loopingSfx hmem => ((mem_dueLoops h sample).mp hmem).1
  have hfold := foldl_fireDueLoop sample (w.dueLoops sample) w h.distinct hdue
  rw [← dueLoopIds_eq h sample] at hfold
  obtain ⟨hstate, hemitted, hothers, hfired⟩ := hfold
  have hstate : (w.fireDueLoops sample).actor.state = w.actor.state := hstate
  have hdeadlines : ∀ loopingSfx ∈ w.actor.state.loopingSfx,
      (w.fireDueLoops sample).actor.loopDeadlinesMs[loopingSfx.id]? =
        if loopingSfx ∈ w.dueLoops sample then
          some (saturatingAdd sample.monotonicMs (loopIntervalMs loopingSfx))
        else w.actor.loopDeadlinesMs[loopingSfx.id]? := by
    intro loopingSfx hloop
    split
    · next hmem => exact hfired (nodup_dueLoops h sample) loopingSfx hmem
    · next hnot =>
      apply hothers
      rw [dueLoopIds_eq h sample]
      intro hid
      obtain ⟨other, hother, hsame⟩ := List.mem_map.mp hid
      exact hnot (List.inj_on_of_nodup_map h.distinct (hdue other hother) hloop hsame ▸ hother)
  refine ⟨⟨?_, ?_⟩, hstate, hemitted, hdeadlines⟩
  · rw [hstate]
    exact h.distinct
  · intro id
    rw [hstate]
    by_cases hid : id ∈ w.actor.state.loopIds
    · obtain ⟨loopingSfx, hloop, rfl⟩ := List.mem_map.mp hid
      obtain ⟨deadline, hdeadline⟩ := h.deadline hloop
      rw [Std.ExtTreeMap.mem_iff_isSome_getElem?, hdeadlines loopingSfx hloop, hdeadline]
      refine iff_of_true ?_ hid
      split <;> rfl
    · have hnot : id ∉ (w.actor.loopDeadlinesMs.toList.filter
          (·.2 ≤ sample.monotonicMs)).map (·.1) := by
        rw [dueLoopIds_eq h sample]
        intro hfires
        obtain ⟨loopingSfx, hmem, hsame⟩ := List.mem_map.mp hfires
        rw [← hsame] at hid
        exact hid (List.mem_map_of_mem (hdue loopingSfx hmem))
      rw [Std.ExtTreeMap.mem_iff_isSome_getElem?]
      have hkept : (w.fireDueLoops sample).actor.loopDeadlinesMs[id]? =
          w.actor.loopDeadlinesMs[id]? := hothers id hnot
      rw [hkept, ← Std.ExtTreeMap.mem_iff_isSome_getElem?]
      exact h.keys id

end

/-! ## A pass over the due effects -/

theorem decide_dueCommand {a : PlaybackActor} {plan : TrackEffectPlan} {draw : Draw}
    {clock : ClockSample} {reduction : Reduction}
    (h : decideCommand a (dueCommand a plan) draw = .ok (clock, reduction)) :
    reduction.events = [] ∧ reduction.nextState.loopingSfx = a.state.loopingSfx := by
  obtain ⟨-, -, hloops⟩ := decideCommand_loops h
  obtain ⟨-, -, -, r, hr, rfl⟩ := decideCommand_eq_ok h
  have hevents : (withOutputPolicy a.catalog r).events = r.events := by
    unfold withOutputPolicy
    split <;> rfl
  obtain ⟨applied, happlied, rfl⟩ := reduce_eq_ok.mp hr
  unfold dueCommand at happlied hloops
  rw [hevents, events_settle, hloops]
  split at happlied
  · obtain ⟨next, -, happlied⟩ := bind_eq_ok.mp happlied
    cases happlied
    exact ⟨rfl, rfl⟩
  · obtain ⟨next, -, happlied⟩ := bind_eq_ok.mp happlied
    cases happlied
    exact ⟨rfl, rfl⟩

variable (codec : JsonCodec Text)

theorem execute_dueCommand {w : World Text} (h : w.actor.LoopsTimed) (plan : TrackEffectPlan)
    (draw : Draw) :
    (w.execute codec (dueCommand w.actor plan) draw).1.actor.LoopsTimed ∧
    (w.execute codec (dueCommand w.actor plan) draw).1.actor.state.loopingSfx =
      w.actor.state.loopingSfx ∧
    (w.execute codec (dueCommand w.actor plan) draw).1.emitted = w.emitted ∧
    ∀ loopingSfx ∈ w.actor.state.loopingSfx,
      (w.execute codec (dueCommand w.actor plan) draw).1.actor.loopDeadlinesMs[loopingSfx.id]? =
        w.actor.loopDeadlinesMs[loopingSfx.id]? := by
  obtain ⟨events, hevents, hturned⟩ := execute_turned codec w (dueCommand w.actor plan) draw
  obtain rfl : events = [] := by
    rcases hevents with hnil | ⟨clock, reduction, hdecided, rfl⟩
    · exact hnil
    · exact (decide_dueCommand hdecided).1
  have hloops : (w.execute codec (dueCommand w.actor plan) draw).1.actor.state.loopingSfx =
      w.actor.state.loopingSfx := by
    rcases execute_live codec w (dueCommand w.actor plan) draw with hidle | hcommand
    · cases hidle with
      | idle hstate => rw [hstate]
    · cases hcommand with
      | command hadmission hstate =>
        exact (congrArg Setup.loopingSfx hstate.setup).trans (decide_dueCommand hadmission).2
  refine ⟨h.step hturned.loops, hloops, ?_, ?_⟩
  · rw [hturned.emitted, List.append_nil]
  · intro loopingSfx hloop
    exact h.kept hturned.loops (by rw [hloops]; exact hloop) hloop (fun hmem => nomatch hmem)

theorem runDueEffects_loops (config : PlaybackActorConfig) {w : World Text}
    (h : w.actor.LoopsTimed) (sample : ClockSample) (draw : Draw) :
    (w.runDueEffects codec config (.ok sample) draw).1.actor.LoopsTimed ∧
    (w.runDueEffects codec config (.ok sample) draw).1.actor.state.loopingSfx =
      w.actor.state.loopingSfx ∧
    (w.runDueEffects codec config (.ok sample) draw).1.emitted =
      w.emitted ++ (w.dueLoops sample).map (·.fired) ∧
    ∀ loopingSfx ∈ w.actor.state.loopingSfx,
      (w.runDueEffects codec config (.ok sample) draw).1.actor.loopDeadlinesMs[loopingSfx.id]? =
        if loopingSfx ∈ w.dueLoops sample then
          some (saturatingAdd sample.monotonicMs (loopIntervalMs loopingSfx))
        else w.actor.loopDeadlinesMs[loopingSfx.id]? := by
  obtain ⟨htimed, hstate, hemitted, hdeadlines⟩ := fireDueLoops_spec h sample
  have hloops := congrArg PlaybackState.loopingSfx hstate
  unfold runDueEffects
  simp only
  split
  · exact ⟨htimed, hloops, hemitted, hdeadlines⟩
  · next plan _ =>
    obtain ⟨htimed', hloops', hemitted', hkept⟩ := execute_dueCommand codec htimed plan draw
    refine ⟨htimed', hloops'.trans hloops, hemitted'.trans hemitted, ?_⟩
    intro loopingSfx hloop
    rw [hkept loopingSfx (by rw [hloops]; exact hloop), hdeadlines loopingSfx hloop]

theorem turn_timed (config : PlaybackActorConfig) {w : World Text} (h : w.actor.LoopsTimed)
    (t : Turn) : (w.turn codec config t).1.actor.LoopsTimed := by
  cases t with
  | message message draw =>
    obtain ⟨events, hturned⟩ := handleMessage_turned codec w message draw
    exact h.step hturned.loops
  | dueEffects sample draw =>
    cases sample with
    | error error => exact h
    | ok sample => exact (runDueEffects_loops codec config h sample draw).1
  | flush draw => exact h.step (flushPosition_turned codec w draw).loops

end World

/-! ## Runs -/

theorem timed_start {Text : Type} {codec : JsonCodec Text} {config : PlaybackActorConfig}
    {row : Option (StoredPlaybackSnapshot Text)} {catalog : CatalogSnapshot} {draw : StartDraw}
    {w : World Text} (h : startPlaybackActor codec config row catalog draw = .ok w) :
    w.actor.LoopsTimed := by
  obtain ⟨⟨loaded, nowMs, changed, hloaded, hpruned⟩, -⟩ := start_live h
  have hloadedLoops : loaded.loopingSfx = [] := by
    rw [← hloaded.normalized]
    rfl
  have hloops : w.actor.state.loopingSfx = [] := by
    have hsublist := loops_pruneForCatalog hpruned
    rw [hloadedLoops] at hsublist
    exact List.sublist_nil.mp hsublist
  have hdeadlines : ∃ nowMs, w.actor.loopDeadlinesMs =
      initialLoopDeadlines w.actor.state.loopingSfx nowMs := by
    obtain ⟨-, -, h⟩ := bind_eq_ok.mp h
    obtain ⟨sample, -, h⟩ := bind_eq_ok.mp h
    obtain ⟨loaded, -, h⟩ := bind_eq_ok.mp h
    split at h
    · cases h
    split at h
    · cases h
    cases h
    exact ⟨sample.monotonicMs, rfl⟩
  obtain ⟨startMs, hdeadlines⟩ := hdeadlines
  have hids : w.actor.state.loopIds = [] := congrArg (List.map LoopingSfx.id) hloops
  constructor
  · rw [hids]
    exact List.nodup_nil
  · intro id
    rw [hids, hdeadlines, hloops]
    exact iff_of_false Std.ExtTreeMap.not_mem_empty (fun hmem => nomatch hmem)

theorem timed_reachable {Text : Type} {codec : JsonCodec Text} {config : PlaybackActorConfig}
    {catalog : CatalogSnapshot} {w : World Text}
    (hw : (actorSystem codec config catalog).Reachable w) : w.actor.LoopsTimed := by
  refine hw.invariant (P := fun w => w.actor.LoopsTimed) ?_ ?_
  · rintro w ⟨row, draw, hstart⟩
    exact timed_start hstart
  · intro w t w' h hstep
    have htimed := World.turn_timed codec config h t
    rw [show w.turn codec config t = (w', .ok ()) from hstep] at htimed
    exact htimed

theorem deadline_after (nowMs : ℕ) (loopingSfx : LoopingSfx) :
    nowMs < saturatingAdd nowMs (loopIntervalMs loopingSfx) ∨
      saturatingAdd nowMs (loopIntervalMs loopingSfx) = u64Max := by
  have hpositive : 1 ≤ loopIntervalMs loopingSfx := le_max_right _ _
  unfold saturatingAdd
  omega

/-- **Loop deadlines**: in every state of a run, and after every further turn, the ids of
the loops are distinct and are the keys of the deadlines.  A message keeps the deadline of a
loop it neither starts nor changes, and gives every other loop one interval from now; a pass
fires each due loop once and moves its deadline past the sample. -/
theorem loop_deadlines {Text : Type} {codec : JsonCodec Text} {config : PlaybackActorConfig}
    {catalog : CatalogSnapshot} {w : World Text}
    (hw : (actorSystem codec config catalog).Reachable w) :
    w.actor.LoopsTimed ∧
    (∀ t, (w.turn codec config t).1.actor.LoopsTimed) ∧
    (∀ message draw, let w' := (w.handleMessage codec message draw).1
      ∀ loopingSfx ∈ w'.actor.state.loopingSfx,
        (loopingSfx ∈ w.actor.state.loopingSfx → ¬ w.Starts w' loopingSfx.id →
          w'.actor.loopDeadlinesMs[loopingSfx.id]? =
            w.actor.loopDeadlinesMs[loopingSfx.id]?) ∧
        (loopingSfx ∉ w.actor.state.loopingSfx ∨ w.Starts w' loopingSfx.id →
          ∃ clock, draw.sample = .ok clock ∧ w'.actor.loopDeadlinesMs[loopingSfx.id]? =
            some (saturatingAdd clock.monotonicMs (loopIntervalMs loopingSfx)))) ∧
    ∀ sample draw, let w' := (w.runDueEffects codec config (.ok sample) draw).1
      w'.actor.state.loopingSfx = w.actor.state.loopingSfx ∧
      (∃ due : List LoopingSfx, due.Nodup ∧ w'.emittedSince w = due.map (·.fired) ∧
        ∀ loopingSfx, loopingSfx ∈ due ↔ loopingSfx ∈ w.actor.state.loopingSfx ∧
          ∃ deadline, w.actor.loopDeadlinesMs[loopingSfx.id]? = some deadline ∧
            deadline ≤ sample.monotonicMs) ∧
      ∀ loopingSfx ∈ w.actor.state.loopingSfx, ∀ deadline,
        w.actor.loopDeadlinesMs[loopingSfx.id]? = some deadline →
        if deadline ≤ sample.monotonicMs then
          ∃ moved, w'.actor.loopDeadlinesMs[loopingSfx.id]? = some moved ∧
            (sample.monotonicMs < moved ∨ moved = u64Max)
        else w'.actor.loopDeadlinesMs[loopingSfx.id]? = some deadline := by
  have htimed := timed_reachable hw
  refine ⟨htimed, World.turn_timed codec config htimed, ?_, ?_⟩
  · intro message draw w' loopingSfx hloop
    obtain ⟨events, hturned⟩ := World.handleMessage_turned codec w message draw
    have hevents : w'.emittedSince w = events := by
      unfold World.emittedSince
      rw [hturned.emitted, List.drop_left]
    have hstarts : w.Starts w' loopingSfx.id ↔ loopingSfx.id ∈ restartedLoopIds events := by
      rw [mem_restartedLoopIds, ← hevents]
      rfl
    rw [hstarts]
    exact ⟨htimed.kept hturned.loops hloop, htimed.begun hturned.loops hloop⟩
  · intro sample draw w'
    obtain ⟨-, hloops, hemitted, hdeadlines⟩ :=
      World.runDueEffects_loops codec config htimed sample draw
    refine ⟨hloops, ⟨w.dueLoops sample, World.nodup_dueLoops htimed sample, ?_,
      fun loopingSfx => World.mem_dueLoops htimed sample⟩, ?_⟩
    · unfold World.emittedSince
      rw [hemitted, List.drop_left]
    · intro loopingSfx hloop deadline hdeadline
      split
      · next hdue =>
        have hmem : loopingSfx ∈ w.dueLoops sample :=
          (World.mem_dueLoops htimed sample).mpr ⟨hloop, deadline, hdeadline, hdue⟩
        refine ⟨_, ?_, deadline_after sample.monotonicMs loopingSfx⟩
        rw [hdeadlines loopingSfx hloop, if_pos hmem]
      · next hwaiting =>
        have hnot : loopingSfx ∉ w.dueLoops sample := by
          intro hmem
          obtain ⟨-, other, hother, hdue⟩ := (World.mem_dueLoops htimed sample).mp hmem
          rw [hdeadline] at hother
          cases hother
          exact hwaiting hdue
        rw [hdeadlines loopingSfx hloop, if_neg hnot, hdeadline]

/-- A loop over a soundboard of the active mode. -/
def drizzleLoop : LoopingSfx := ⟨"rain", "Rain", "board", "rain.ogg", .finite 30, .default⟩

/-- The owner learns of a mode, switches to it, and starts a loop. -/
def loopingTurns : List Turn :=
  [turnAt 0 (.replaceModeCatalog ⟨1, (∅ : BTreeMap String CatalogMode).insert "camp"
      ⟨(∅ : BTreeMap String (BTreeSet String)).insert "board"
        ((∅ : BTreeSet String).insert "rain.ogg"), ∅, ∅, false⟩, []⟩),
    turnAt 1 (.execute (.atGeneration (.setActiveMode (some "camp")) ⟨0, 1⟩)),
    turnAt 2 (.execute (.atGeneration (.startLoop drizzleLoop) ⟨0, 1⟩))]

theorem loop_deadlines_looping :
    (ownerAfter loopingTurns).actor.state.loopIds = ["rain"] ∧
    (ownerAfter loopingTurns).actor.LoopsTimed ∧
    ∀ t, ((ownerAfter loopingTurns).turn documentCodec .default t).1.actor.LoopsTimed :=
  have h := loop_deadlines (ownerAfter_reachable loopingTurns)
  ⟨by decide +kernel, h.1, h.2.1⟩

end MusicServer
