/-
# A lost session

A state sampled after a session is lost goes out as a guest's, as long as the session is not
lost while the writer waits for a snapshot with a projection taken before: the writer's side
is the invariant `Shielded`, over the reader's.
-/
import MusicServer.SessionReader

namespace MusicServer.WebSocket

open Protocol Transition

namespace Socket

/-! ## The writer's invariant -/

def loses (s : Socket) : SocketLabel → Bool
  | .ticked now | .received _ now =>
    match refreshAuthorization s.hasAuth s.authorization now s.instant with
    | .settled _ lost => lost.isSome
    | .lookup _ => false
  | .answered result => (finishRefresh s.authorization result).2.isSome
  | _ => false

/-- The session is not lost while the writer waits for a snapshot with a projection that
claims it. -/
def settled (s : Socket) (label : SocketLabel) : Bool :=
  match s.writer with
  | .snapshotRequested session => !(session.authenticated && s.loses label)
  | _ => true

/-- A turn of the reader leaves the writer where it is; where it logs a loss, it `loses`. -/
def Reads (s s' : Socket) (loses : Prop) : Prop :=
  s'.writer = s.writer ∧ s'.samples = s.samples ∧ ∃ events, s'.log = s.log ++ events ∧
    ∀ e ∈ events, e.ofReader ∧ (e = .downgraded → loses)

theorem Reads.trans {s t u : Socket} {loses : Prop} (h : s.Reads t loses) (h' : t.Reads u loses) :
    s.Reads u loses := by
  obtain ⟨hwriter, hsamples, events, hlog, hevents⟩ := h
  obtain ⟨hwriter', hsamples', events', hlog', hevents'⟩ := h'
  refine ⟨hwriter'.trans hwriter, hsamples'.trans hsamples, events ++ events', ?_, fun e he => ?_⟩
  · rw [hlog', hlog, List.append_assoc]
  · exact (List.mem_append.mp he).elim (hevents e) (hevents' e)

theorem reads_of_log {s s' : Socket} (loses : Prop) (hwriter : s'.writer = s.writer)
    (hsamples : s'.samples = s.samples) (hlog : s'.log = s.log) : s.Reads s' loses :=
  ⟨hwriter, hsamples, [], by rw [hlog, List.append_nil], by simp⟩

theorem reads_of_event {s s' : Socket} {loses : Prop} {e : SocketEvent}
    (hwriter : s'.writer = s.writer) (hsamples : s'.samples = s.samples)
    (hlog : s'.log = s.log ++ [e]) (he : e.ofReader) (hlost : e = .downgraded → loses) :
    s.Reads s' loses :=
  ⟨hwriter, hsamples, [e], hlog, fun e' he' => by rw [List.mem_singleton.mp he']; exact ⟨he, hlost⟩⟩

theorem Acts.reads {s s' : Socket} (h : s.Acts s') (loses : Prop) : s.Reads s' loses := by
  obtain ⟨events, reader, rfl, hlogs, -⟩ := h
  refine ⟨rfl, rfl, events, rfl, ?_⟩
  rcases hlogs with rfl | ⟨clientId, positionMs, rfl⟩ | ⟨-, e, hevent, rfl⟩
  · simp
  · simp [SocketEvent.ofReader]
  · intro e' he'
    rw [List.mem_singleton.mp he']
    cases e <;> simp [SocketEvent.mutates, SocketEvent.ofReader] at hevent ⊢

theorem reads_settle (s : Socket) (authorization : SessionAuthorization)
    (lost : Option (String × ErrorCode)) (pending : Option ClientAction) :
    s.Reads (s.settle authorization lost pending) lost.isSome := by
  cases lost with
  | none =>
    exact (reads_of_log _ rfl rfl rfl).trans ((acts_proceed { s with authorization } pending).reads _)
  | some lost => exact reads_of_event rfl rfl rfl rfl fun _ => rfl

theorem reads_refresh (s : Socket) (now : Option ℤ) (pending : Option ClientAction) :
    s.Reads (s.refresh now pending) (s.loses (.ticked now)) := by
  have hrecord : s.Reads (s.record (.checked now s.instant)) (s.loses (.ticked now)) :=
    reads_of_event rfl rfl rfl rfl fun h => by cases h
  refine hrecord.trans ?_
  unfold Socket.refresh
  simp only [loses, record]
  cases refreshAuthorization s.hasAuth s.authorization now s.instant with
  | settled authorization lost => exact reads_settle _ authorization lost pending
  | lookup authorization => exact reads_of_log _ rfl rfl rfl

theorem reads_answer (s : Socket) (result : SessionAnswer) (pending : Option ClientAction) :
    s.Reads (s.answer result pending) (s.loses (.answered result)) := by
  unfold Socket.answer
  cases result with
  | authenticated expiresAt =>
    have hrecord : s.Reads (s.record (.confirmed s.instant expiresAt))
        (s.loses (.answered (.authenticated expiresAt))) :=
      reads_of_event rfl rfl rfl rfl fun h => by cases h
    exact hrecord.trans (reads_settle _ _ _ pending)
  | expired | missing | failed => exact reads_settle _ _ _ pending

/-- What the writer holds, against the log: a session that claims an authorization was taken
before any loss, and so was the state beside it sampled. -/
def WriterSound (s : Socket) : Prop :=
  match s.writer with
  | .snapshotRequested session => session.authenticated → .downgraded ∉ s.log
  | .snapshotTaken session sample =>
    (session.authenticated → ¬ SampledSince s.log sample) ∧ sample.number < s.samples
  | _ => True

structure Shielded (s : Socket) : Prop where
  fresh : ∀ sample, .sampled sample ∈ s.log → sample.number < s.samples
  writer : s.WriterSound
  sent : GuestsSince s.log

theorem Shielded.reads {s s' : Socket} (h : s.Shielded) {label : SocketLabel}
    (hguard : s.settled label) (hreads : s.Reads s' (s.loses label)) : s'.Shielded := by
  obtain ⟨hwriter, hsamples, events, hlog, hevents⟩ := hreads
  have hreader : ∀ e ∈ events, e.ofReader := fun e he => (hevents e he).1
  refine ⟨fun sample hmem => ?_, ?_, hlog ▸ h.sent.append_reader hreader⟩
  · rw [hlog, List.mem_append] at hmem
    rcases hmem with hmem | hmem
    · rw [hsamples]
      exact h.fresh sample hmem
    · exact Bool.noConfusion (hreader _ hmem)
  · have hphase := h.writer
    unfold WriterSound at hphase ⊢
    rw [hwriter, hlog, hsamples]
    cases hw : s.writer with
    | snapshotRequested session =>
      rw [hw] at hphase
      intro hsession hmem
      rcases List.mem_append.mp hmem with hmem | hmem
      · exact hphase hsession hmem
      · have hloses := (hevents _ hmem).2 rfl
        simp [settled, hw, hsession, hloses] at hguard
    | snapshotTaken session sample =>
      rw [hw] at hphase
      exact ⟨fun hsession hsince => hphase.1 hsession (hsince.of_append_reader hreader), hphase.2⟩
    | starting initial | waiting | publicationTaken sample | sending | finished => trivial

theorem Shielded.logs {s s' : Socket} (h : s.Shielded) (hsamples : s'.samples = s.samples)
    (hwriter : s'.WriterSound)
    (hlog : s'.log = s.log ∨ ∃ message, s'.log = s.log ++ [.sent message]) : s'.Shielded := by
  rcases hlog with hlog | ⟨message, hlog⟩
  · exact ⟨by rw [hlog, hsamples]; exact h.fresh, hwriter, hlog ▸ h.sent⟩
  · refine ⟨fun sample hmem => ?_, hwriter, ?_⟩
    · rw [hlog] at hmem
      rw [hsamples]
      exact h.fresh sample (by simpa using hmem)
    · rw [hlog]
      exact h.sent.append fun _ _ _ heq => by cases heq

theorem Sound.not_lost {s : Socket} (h : s.Sound) (hsession : s.projection.authenticated) :
    .downgraded ∉ s.log := fun hmem =>
  SessionAuthorization.not_authenticated (h.lost hmem) (h.projected hsession)

theorem Shielded.sends {s : Socket} (h : s.Shielded) {sample : Sample}
    {session : SessionProjection} (hsession : session.authenticated → ¬ SampledSince s.log sample)
    (snapshot : Bool) : (s.sendProjectedState sample session snapshot).Shielded := by
  unfold sendProjectedState
  split
  · exact h.logs rfl trivial (.inl rfl)
  · next canonical hcanonical =>
    refine ⟨fun sample' hmem => h.fresh sample' ?_, trivial, h.sent.append ?_⟩
    · simpa [record] using hmem
    · intro sample' snapshot' state heq hsince
      obtain ⟨rfl, rfl, rfl⟩ := SocketEvent.sentState.inj heq
      refine ⟨canonical, session.clientId, hcanonical, ?_⟩
      rw [if_neg fun hauth => hsession hauth hsince]

theorem Shielded.samples {s : Socket} (h : s.Shielded) (publication : PlaybackPublication)
    {s' : Socket} (hsamples : s'.samples = s.samples + 1)
    (hlog : s'.log = s.log ++ [.sampled ⟨s.samples, publication⟩]) (hwriter : s'.WriterSound) :
    s'.Shielded := by
  refine ⟨fun sample hmem => ?_, hwriter, ?_⟩
  · rw [hlog, List.mem_append, List.mem_singleton] at hmem
    rw [hsamples]
    rcases hmem with hmem | hmem
    · exact (h.fresh sample hmem).trans (Nat.lt_succ_self _)
    · cases hmem
      exact Nat.lt_succ_self _
  · rw [hlog]
    exact h.sent.append fun _ _ _ heq => by cases heq

theorem WriterSound.published {s : Socket} (h : s.WriterSound) (publication : PlaybackPublication) :
    Socket.WriterSound { (s.sample publication).1 with
      latest := (s.sample publication).2, publicationChanged := true } := by
  unfold WriterSound at h ⊢
  simp only [Socket.sample, record]
  split at h
  · intro hsession hmem
    exact h hsession (by simpa using hmem)
  · refine ⟨fun hsession hsince => ?_, h.2.trans (Nat.lt_succ_self _)⟩
    rcases hsince.of_append with hsince | ⟨heq, -⟩
    · exact h.1 hsession hsince
    · have hlt := h.2
      rw [← SocketEvent.sampled.inj heq] at hlt
      exact Nat.lt_irrefl _ hlt
  · trivial

theorem WriterSound.sampled {s : Socket} {session : SessionProjection} (h : s.WriterSound)
    (hwriter : s.writer = .snapshotRequested session) (publication : PlaybackPublication) :
    Socket.WriterSound { (s.sample publication).1 with
      writer := .snapshotTaken session (s.sample publication).2 } := by
  unfold WriterSound at h
  rw [hwriter] at h
  refine ⟨fun hsession hsince => ?_, Nat.lt_succ_self _⟩
  rcases hsince.of_append with hsince | ⟨-, hmem⟩
  · exact h hsession hsince.downgraded
  · exact h hsession hmem

theorem Shielded.exec {s s' : Socket} (hsteady : s.Steady) (h : s.Shielded) {label : SocketLabel}
    (hguard : s.settled label) (hstep : s.exec label = some s') : s'.Shielded := by
  have hquiet : ∀ {t : Socket}, t.writer = s.writer → t.samples = s.samples → t.log = s.log →
      t.Shielded := fun hwriter hsamples hlog => h.reads hguard (reads_of_log _ hwriter hsamples hlog)
  have hunlost : ∀ sample, s.projection.authenticated → ¬ SampledSince s.log sample :=
    fun sample hsession hsince => hsteady.not_lost hsession hsince.downgraded
  cases label with
  | elapsed milliseconds | shutdown =>
    cases hstep
    exact hquiet rfl rfl rfl
  | published publication =>
    cases hstep
    exact h.samples publication rfl rfl (h.writer.published publication)
  | ticked now =>
    obtain ⟨-, hs'⟩ := Option.ite_none_right_eq_some.mp hstep
    cases hs'
    exact h.reads hguard (s.reads_refresh now none)
  | received action now =>
    obtain ⟨-, hs'⟩ := Option.ite_none_right_eq_some.mp hstep
    cases hs'
    exact h.reads hguard (s.reads_refresh now (some action))
  | receivedInvalid | receivedPing bytes | closed | readerCancelled =>
    obtain ⟨-, hs'⟩ := Option.ite_none_right_eq_some.mp hstep
    cases hs'
    exact hquiet rfl rfl rfl
  | answered result =>
    simp only [Socket.exec] at hstep
    split at hstep
    · next pending hreader =>
      cases hstep
      exact h.reads hguard (s.reads_answer result pending)
    · cases hstep
  | queued =>
    simp only [Socket.exec] at hstep
    split at hstep
    · next command pending hreader =>
      obtain ⟨-, hs'⟩ := Option.ite_none_right_eq_some.mp hstep
      cases hs'
      exact h.reads hguard ((reads_of_log _ rfl rfl rfl).trans ((acts_proceed _ pending).reads _))
    · cases hstep
  | queueTimedOut =>
    simp only [Socket.exec] at hstep
    split at hstep
    · next command pending hreader =>
      cases hstep
      exact h.reads hguard ((reads_of_log _ rfl rfl rfl).trans ((acts_proceed _ pending).reads _))
    · cases hstep
  | deviceFound device | registered accepted | executed result =>
    simp only [Socket.exec] at hstep
    split at hstep
    · split at hstep
      · cases hstep
        exact hquiet rfl rfl rfl
      · cases hstep
        exact hquiet rfl rfl rfl
    · cases hstep
  | started =>
    simp only [Socket.exec] at hstep
    split at hstep
    · cases hstep
      exact h.sends (hunlost _) true
    · cases hstep
  | tookCommand =>
    simp only [Socket.exec] at hstep
    split at hstep
    · cases hstep
      exact h.logs rfl trivial (.inr ⟨_, rfl⟩)
    · cases hstep
      exact h.logs rfl trivial (.inl rfl)
    · cases hstep
  | tookPublication | lagged | writerCancelled =>
    obtain ⟨-, hs'⟩ := Option.ite_none_right_eq_some.mp hstep
    cases hs'
    exact h.logs rfl trivial (.inl rfl)
  | projectedPublication =>
    simp only [Socket.exec] at hstep
    split at hstep
    · cases hstep
      exact h.sends (hunlost _) false
    · cases hstep
  | tookProjection =>
    obtain ⟨-, hs'⟩ := Option.ite_none_right_eq_some.mp hstep
    cases hs'
    exact h.logs rfl (fun hsession => hsteady.not_lost hsession) (.inl rfl)
  | snapshotSampled publication =>
    simp only [Socket.exec] at hstep
    split at hstep
    · next session hwriter =>
      cases hstep
      exact h.samples publication rfl rfl (h.writer.sampled hwriter publication)
    · cases hstep
  | snapshotFailed =>
    simp only [Socket.exec] at hstep
    split at hstep
    · cases hstep
      exact h.logs rfl trivial (.inl rfl)
    · cases hstep
  | projectedSnapshot =>
    have hphase := h.writer
    simp only [Socket.exec] at hstep
    split at hstep
    · next session sample hwriter =>
      cases hstep
      simp only [WriterSound, hwriter] at hphase
      exact h.sends hphase.1 false
    · cases hstep
  | tookSfx soundboardId itemPath volume =>
    obtain ⟨-, hs'⟩ := Option.ite_none_right_eq_some.mp hstep
    cases hs'
    exact h.logs rfl trivial (.inr ⟨_, rfl⟩)
  | sendFinished delivered =>
    obtain ⟨-, hs'⟩ := Option.ite_none_right_eq_some.mp hstep
    split at hs'
    · cases hs'
      exact h.logs rfl trivial (.inl rfl)
    · cases hs'
      exact h.logs rfl trivial (.inl rfl)

end Socket

/-! ## Runs -/

theorem steady_socket (c : Connected) : c.socket.Steady := by
  refine ⟨⟨fun hmem => ?_, fun hauth => hauth, fun hauth => ?_, ?_⟩, fun _ _ => ?_, trivial⟩
  · simp [Connected.socket] at hmem
  · cases hsession : c.session with
    | none =>
      simp [Connected.socket, SessionAuthorization.fromSession, hsession,
        SessionAuthorization.authenticated] at hauth
    | some session =>
      refine ⟨session.expiresAt, ?_, ?_⟩ <;>
        simp [Connected.socket, SessionAuthorization.fromSession, hsession, lastKnownExpiry,
          SocketEvent.expiry, List.findSome?]
  · intro before event after hlog hevent
    have hmem : event ∈ c.socket.log := by simp [hlog]
    simp only [Connected.socket, List.mem_cons, List.not_mem_nil, or_false] at hmem
    rcases hmem with rfl | rfl | rfl <;> cases hevent
  · refine ⟨c.instant, ⟨(SessionAuthorization.fromSession c.session c.instant).expiresAt, .inl ?_⟩,
      le_refl _⟩
    simp [Connected.socket]

theorem shielded_socket (c : Connected) : c.socket.Shielded := by
  refine ⟨fun sample hmem => ?_, trivial, fun before sample snapshot state after hlog _ => ?_⟩
  · simp only [Connected.socket, List.mem_cons, SocketEvent.sampled.injEq, List.not_mem_nil,
      or_false, reduceCtorEq] at hmem
    rcases hmem with rfl | rfl
    · show 0 < 2
      decide
    · show 1 < 2
      decide
  · have hmem : .sentState sample snapshot state ∈ c.socket.log := by simp [hlog]
    simp [Connected.socket] at hmem

/-- A session that is lost stays lost, and what an action executes is licensed by its own
check.  Where no session is lost while the writer waits for a snapshot with a projection that
claims it, no state sampled after the loss is sent as more than a guest's. -/
theorem lost_session_effective {s : Socket} {run : List (SocketLabel × Socket)}
    (hinit : socketSystem.init s) (hrun : socketSystem.IsRun s run) :
    (∀ q ∈ System.states s run,
      (.downgraded ∈ q.log →
        q.authorization.authenticated = false ∧ q.projection.authenticated = false) ∧
      ActionsLicensed q.log) ∧
    ((∀ t ∈ System.steps s run, t.1.settled t.2.1) →
      ∀ q ∈ System.states s run, GuestsSince q.log) := by
  obtain ⟨c, rfl⟩ := hinit
  have hsteady : ∀ q ∈ System.states c.socket run, q.Steady :=
    hrun.forall_states (G := fun _ _ => True) (fun _ _ _ h hstep _ => h.exec hstep)
      (steady_socket c) fun _ _ => trivial
  refine ⟨fun q hq => ⟨fun hmem => ?_, (hsteady q hq).licensed⟩, fun hguard q hq => ?_⟩
  · have hguest := SessionAuthorization.not_authenticated ((hsteady q hq).lost hmem)
    refine ⟨by simpa using hguest, ?_⟩
    by_contra hsession
    exact (hsteady q hq).not_lost (by simpa using hsession) hmem
  · have hboth := hrun.forall_states (P := fun q => q.Steady ∧ q.Shielded)
      (fun _ _ _ h hstep hsettled => ⟨h.1.exec hstep, h.2.exec h.1 hsettled hstep⟩)
      ⟨steady_socket c, shielded_socket c⟩ hguard
    exact (hboth q hq).2.sent

/-! ## A registered session that expires -/

/-- The hall is playing to a list of one device. -/
def hallPublication : PlaybackPublication :=
  ⟨PlaybackState.default, [⟨"hall", "Hall", true⟩], ⟨0, 0, epoch_nonneg⟩⟩

def hallSession : Connected where
  session := some ⟨"token", 100⟩
  hasAuth := true
  hasDevices := false
  hasCatalog := true
  instant := 0
  initial := hallPublication
  latest := hallPublication
  publicationChanged := false

/-- The session expires while the writer waits, and the writer takes the projection then. -/
def expiringLabels : List SocketLabel :=
  [.started, .sendFinished true, .ticked (some 100), .queued, .tookProjection,
    .snapshotSampled hallPublication, .projectedSnapshot]

/-- The session expires while the writer waits for the snapshot of its registration. -/
def racingLabels : List SocketLabel :=
  [.started, .sendFinished true, .received (.register "Hall" "hall") (some 1), .registered true,
    .tookProjection, .ticked (some 100), .snapshotSampled hallPublication, .projectedSnapshot]

def hallRun (labels : List SocketLabel) : List (SocketLabel × Socket) :=
  System.replay Socket.exec hallSession.socket labels

theorem hallRun_isRun (labels : List SocketLabel) :
    socketSystem.IsRun hallSession.socket (hallRun labels) :=
  System.isRun_replay (fun _ _ _ h => h) _ labels

theorem lost_session_effective_expiring :
    (hallRun expiringLabels).length = 7 ∧
    .downgraded ∈ (System.finish hallSession.socket (hallRun expiringLabels)).log ∧
    ∀ q ∈ System.states hallSession.socket (hallRun expiringLabels),
      ActionsLicensed q.log ∧ GuestsSince q.log :=
  have h := lost_session_effective ⟨hallSession, rfl⟩ (hallRun_isRun expiringLabels)
  have hguard : ∀ t ∈ System.steps hallSession.socket (hallRun expiringLabels),
      t.1.settled t.2.1 := by decide +kernel
  ⟨by decide +kernel, by decide +kernel, fun q hq => ⟨(h.1 q hq).2, h.2 hguard q hq⟩⟩

/-- The snapshot is sampled after the loss and sent with the list of devices. -/
theorem snapshot_outlives_session :
    ∃ s run, socketSystem.init s ∧ socketSystem.IsRun s run ∧
      ∃ q ∈ System.states s run, ¬ GuestsSince q.log := by
  refine ⟨hallSession.socket, hallRun racingLabels, ⟨hallSession, rfl⟩, hallRun_isRun _,
    System.finish hallSession.socket (hallRun racingLabels), System.finish_mem_states _ _,
    fun hguests => ?_⟩
  obtain ⟨canonical, own, -, hstate⟩ := hguests _ ⟨2, hallPublication⟩ false _ [] rfl
    ⟨_, [], rfl, by decide +kernel⟩
  have hdevices := congrArg PlayerState.connectedDevices hstate
  cases hdevices

end MusicServer.WebSocket
