/-
# The authorization of a session

What a session may do before and after its authorization is lost, on the reader's side.  The
invariant is `Sound`: the projection of a socket never claims more than its authorization, and
what the log says was executed was licensed by its own check.
-/
import MusicServer.SessionSocket

namespace MusicServer.WebSocket

open Protocol Transition

/-! ## Events and logs -/

def SocketEvent.ofReader : SocketEvent → Bool
  | .checked _ _ | .confirmed _ _ | .downgraded | .executed _ | .skipped _ | .reported _ _ => true
  | _ => false

/-- The events of an action other than a registration and a position report. -/
def SocketEvent.mutates : SocketEvent → Bool
  | .executed _ | .skipped _ => true
  | _ => false

/-- The expiry a connection or a confirmation came with. -/
def SocketEvent.expiry : SocketEvent → Option (Option ℤ)
  | .connected _ expiresAt => some expiresAt
  | .confirmed _ expiresAt => some (some expiresAt)
  | _ => none

def lastKnownExpiry (log : List SocketEvent) : Option ℤ :=
  ((log.filterMap SocketEvent.expiry).getLast?).join

/-- The database confirmed the session at this instant, or it was connected then. -/
def ConfirmedAt (log : List SocketEvent) (instant : ℕ) : Prop :=
  ∃ expiresAt, .connected instant expiresAt ∈ log ∨ ∃ x, expiresAt = some x ∧
    .confirmed instant x ∈ log

/-- The last check of a log, at an instant, found an expiry in the future; the reader has
done nothing since but to take an answer of the database. -/
def CheckedAt (log : List SocketEvent) (instant : ℕ) : Prop :=
  ∃ earlier now expiresAt later, log = earlier ++ .checked (some now) instant :: later ∧
    lastKnownExpiry earlier = some expiresAt ∧ now < expiresAt ∧
    ∀ e ∈ later, e.ofReader → ∃ t x, e = .confirmed t x

/-- What an action needs: no loss before, and its own check in time for the expiry and for
the last confirmation. -/
def Licensed (log : List SocketEvent) : Prop :=
  .downgraded ∉ log ∧ ∃ instant, CheckedAt log instant ∧
    ∃ t, ConfirmedAt log t ∧ instant < t + sessionRecheckInterval

/-- Everything executed was licensed by what the log says up to there. -/
def ActionsLicensed (log : List SocketEvent) : Prop :=
  ∀ before event after, log = before ++ event :: after → event.mutates → Licensed before

/-- The state was sampled after the session was lost. -/
def SampledSince (log : List SocketEvent) (sample : Sample) : Prop :=
  ∃ earlier later, log = earlier ++ .sampled sample :: later ∧ .downgraded ∈ earlier

/-- Every state sent after it was sampled after the loss is the projection for a guest. -/
def GuestsSince (log : List SocketEvent) : Prop :=
  ∀ before sample snapshot state after,
    log = before ++ .sentState sample snapshot state :: after → SampledSince before sample →
      ∃ canonical own, canonicalState sample.publication = .ok canonical ∧
        state = guestState canonical own

theorem split_concat {α : Type} {log a b : List α} {e x : α} (h : log ++ [e] = a ++ x :: b) :
    (a = log ∧ x = e) ∨ ∃ b', log = a ++ x :: b' := by
  rcases List.eq_nil_or_concat b with rfl | ⟨b', y, rfl⟩
  · rw [← List.concat_eq_append, ← List.concat_eq_append] at h
    have h' := List.concat_inj.mp h
    exact .inl ⟨h'.1.symm, h'.2.symm⟩
  · have h' : log ++ [e] = (a ++ x :: b') ++ [y] := by simpa using h
    exact .inr ⟨b', (List.append_inj' h' rfl).1⟩

@[simp] theorem lastKnownExpiry_append (log : List SocketEvent) (e : SocketEvent) :
    lastKnownExpiry (log ++ [e]) = e.expiry.getD (lastKnownExpiry log) := by
  unfold lastKnownExpiry
  rw [List.filterMap_append]
  cases h : e.expiry <;> simp [h]

variable {log : List SocketEvent}

theorem ConfirmedAt.append {t : ℕ} (h : ConfirmedAt log t) (events : List SocketEvent) :
    ConfirmedAt (log ++ events) t := by
  obtain ⟨x, h | ⟨y, hy, h⟩⟩ := h
  · exact ⟨x, .inl (List.mem_append_left _ h)⟩
  · exact ⟨x, .inr ⟨y, hy, List.mem_append_left _ h⟩⟩

theorem CheckedAt.append {instant : ℕ} (h : CheckedAt log instant) {e : SocketEvent}
    (he : e.ofReader → ∃ t x, e = .confirmed t x) :
    CheckedAt (log ++ [e]) instant := by
  obtain ⟨earlier, now, expiresAt, later, rfl, hexpiry, hnow, hlater⟩ := h
  refine ⟨earlier, now, expiresAt, later ++ [e], by simp, hexpiry, hnow, fun e' he' => ?_⟩
  rcases List.mem_append.mp he' with he' | he'
  · exact hlater e' he'
  · rw [List.mem_singleton.mp he']
    exact he

theorem ActionsLicensed.append (h : ActionsLicensed log) {e : SocketEvent}
    (he : e.mutates → Licensed log) : ActionsLicensed (log ++ [e]) := by
  intro before event after hlog hevent
  rcases split_concat hlog with ⟨rfl, rfl⟩ | ⟨after', hlog⟩
  · exact he hevent
  · exact h before event after' hlog hevent

theorem SampledSince.downgraded {sample : Sample} (h : SampledSince log sample) :
    .downgraded ∈ log := by
  obtain ⟨earlier, later, rfl, h⟩ := h
  exact List.mem_append_left _ h

theorem SampledSince.of_append {e : SocketEvent} {sample : Sample}
    (h : SampledSince (log ++ [e]) sample) :
    SampledSince log sample ∨ (e = .sampled sample ∧ .downgraded ∈ log) := by
  obtain ⟨earlier, later, hlog, h⟩ := h
  rcases split_concat hlog with ⟨rfl, he⟩ | ⟨later', hlog⟩
  · exact .inr ⟨he.symm, h⟩
  · exact .inl ⟨earlier, later', hlog, h⟩

theorem GuestsSince.append (h : GuestsSince log) {e : SocketEvent}
    (he : ∀ sample snapshot state, e = .sentState sample snapshot state →
      SampledSince log sample → ∃ canonical own,
        canonicalState sample.publication = .ok canonical ∧ state = guestState canonical own) :
    GuestsSince (log ++ [e]) := by
  intro before sample snapshot state after hlog hsince
  rcases split_concat hlog with ⟨rfl, rfl⟩ | ⟨after', hlog⟩
  · exact he sample snapshot state rfl hsince
  · exact h before sample snapshot state after' hlog hsince

theorem SampledSince.of_append_reader {events : List SocketEvent} {sample : Sample}
    (hevents : ∀ e ∈ events, e.ofReader) (h : SampledSince (log ++ events) sample) :
    SampledSince log sample := by
  induction events generalizing log with
  | nil => rwa [List.append_nil] at h
  | cons e events ih =>
    have h' : SampledSince ((log ++ [e]) ++ events) sample := by simpa using h
    rcases (ih (fun e' he' => hevents e' (List.mem_cons_of_mem e he')) h').of_append with h' | h'
    · exact h'
    · have he := hevents e List.mem_cons_self
      rw [h'.1] at he
      cases he

theorem GuestsSince.append_reader {events : List SocketEvent} (h : GuestsSince log)
    (hevents : ∀ e ∈ events, e.ofReader) : GuestsSince (log ++ events) := by
  induction events generalizing log with
  | nil => rwa [List.append_nil]
  | cons e events ih =>
    have he := hevents e List.mem_cons_self
    have h' : GuestsSince (log ++ [e]) := by
      refine h.append fun sample snapshot state heq => ?_
      rw [heq] at he
      cases he
    have happend := ih h' fun e' he' => hevents e' (List.mem_cons_of_mem e he')
    rwa [List.append_assoc] at happend

/-! ## What the reader does in one turn -/

theorem SessionAuthorization.not_authenticated {authorization : SessionAuthorization}
    (h : authorization.token = none) : ¬ authorization.authenticated := by
  simp [SessionAuthorization.authenticated, h]

namespace Socket

/-- What an action logs: nothing, a report, or what an authenticated session has executed. -/
def Logs (s : Socket) (events : List SocketEvent) : Prop :=
  events = [] ∨ (∃ clientId positionMs, events = [.reported clientId positionMs]) ∨
    (s.authorization.authenticated ∧ ∃ e : SocketEvent, e.mutates ∧ events = [e])

/-- Where an action leaves the reader: no recheck is under way, and what it may register is
the session as it is authorized. -/
def Rests (s : Socket) : ReaderPhase → Prop
  | .lookingUp _ => False
  | .queueing _ (some _) => False
  | .registering session => session.authenticated = s.authorization.authenticated
  | _ => True

def Acts (s s' : Socket) : Prop :=
  ∃ events reader, s' = { s with log := s.log ++ events, reader } ∧ s.Logs events ∧ s.Rests reader

theorem acts_queueError (s : Socket) (detail : String) : s.Acts (s.queueError detail) :=
  ⟨[], .queueing (.error detail none) none, by simp [queueError], .inl rfl, trivial⟩

theorem acts_request {s : Socket} (h : s.authorization.authenticated) (request : PlaybackRequest) :
    s.Acts (s.request request) := by
  cases request with
  | direct command =>
    exact ⟨[.executed (.direct command)], .executing .direct, rfl, .inr (.inr ⟨h, _, rfl, rfl⟩),
      trivial⟩
  | catalog request =>
    simp only [Socket.request]
    split
    · exact ⟨[.executed (.catalog request)], .executing .catalog, rfl,
        .inr (.inr ⟨h, _, rfl, rfl⟩), trivial⟩
    · exact s.acts_queueError _

theorem acts_handleAction (s : Socket) (action : ClientAction) : s.Acts (s.handleAction action) := by
  unfold handleAction
  split
  · -- a registration
    rename_i name clientId
    split
    · exact ⟨[], .findingDevice name clientId, by simp, .inl rfl, trivial⟩
    · exact ⟨[], .registering ⟨some clientId, s.authorization.authenticated⟩,
        by simp [startRegistration], .inl rfl, rfl⟩
  · -- a position report
    rename_i positionMs
    split
    · exact s.acts_queueError _
    · next clientId _ =>
      exact ⟨[.reported clientId positionMs], .executing .report, rfl,
        .inr (.inl ⟨clientId, positionMs, rfl⟩), trivial⟩
  · -- any other action, of an authenticated session
    by_cases h : s.authorization.authenticated = true
    · rw [if_neg (by simp [h])]
      split
      · next deviceIds _ _ =>
        exact ⟨[.executed (.direct (.setActiveOutputs deviceIds))], .executing .outputs, rfl,
          .inr (.inr ⟨h, _, rfl, rfl⟩), trivial⟩
      · split
        · exact s.acts_queueError _
        · next expectedTrackId _ =>
          exact ⟨[.skipped expectedTrackId], .executing .skip, rfl,
            .inr (.inr ⟨h, _, rfl, rfl⟩), trivial⟩
      · split
        · exact s.acts_queueError _
        · exact acts_request h _
    · rw [if_pos (by simpa using h)]
      exact s.acts_queueError _

theorem acts_proceed (s : Socket) (pending : Option ClientAction) : s.Acts (s.proceed pending) := by
  cases pending with
  | none => exact ⟨[], .waiting, by simp [proceed], .inl rfl, trivial⟩
  | some action => exact s.acts_handleAction action

/-! ## The reader's invariant -/

/-- What the reader is at, against its authorization and the log. -/
def ReaderSound (s : Socket) : Prop :=
  match s.reader with
  | .registering session => session.authenticated → s.authorization.authenticated
  | .queueing _ (some _) => s.authorization.token = none
  | .lookingUp _ =>
    s.authorization.authenticated ∧ CheckedAt s.log s.authorization.lastDatabaseCheck ∧
      s.authorization.lastDatabaseCheck ≤ s.instant
  | _ => True

/-- The database confirmed an authorized session at its last check or since. -/
def Confirmed (s : Socket) : Prop :=
  s.authorization.authenticated →
    ∃ t, ConfirmedAt s.log t ∧ s.authorization.lastDatabaseCheck ≤ t

structure Sound (s : Socket) : Prop where
  lost : .downgraded ∈ s.log → s.authorization.token = none
  projected : s.projection.authenticated → s.authorization.authenticated
  known : s.authorization.authenticated →
    ∃ expiresAt, s.authorization.expiresAt = some expiresAt ∧
      lastKnownExpiry s.log = some expiresAt
  licensed : ActionsLicensed s.log

/-- The invariant of the reader, whatever it waits for. -/
structure Steady (s : Socket) : Prop extends Sound s where
  confirmed : (∀ pending, s.reader ≠ .lookingUp pending) → s.Confirmed
  reader : s.ReaderSound

theorem Sound.record {s : Socket} (h : s.Sound) {e : SocketEvent} (hlost : e ≠ .downgraded)
    (hexpiry : e.expiry = none) (hlicensed : e.mutates → Licensed s.log) : (s.record e).Sound := by
  refine ⟨fun hmem => h.lost ?_, h.projected, fun hauth => ?_, h.licensed.append hlicensed⟩
  · rcases List.mem_append.mp hmem with hmem | hmem
    · exact hmem
    · exact absurd (List.mem_singleton.mp hmem).symm hlost
  · obtain ⟨expiresAt, hsome, hlast⟩ := h.known hauth
    refine ⟨expiresAt, hsome, ?_⟩
    show lastKnownExpiry (s.log ++ [e]) = some expiresAt
    rw [lastKnownExpiry_append, hexpiry, Option.getD_none, hlast]

theorem Confirmed.record {s : Socket} (h : s.Confirmed) (e : SocketEvent) :
    (s.record e).Confirmed := by
  intro hauth
  obtain ⟨t, ht, hle⟩ := h hauth
  exact ⟨t, ht.append [e], hle⟩

theorem Rests.readerSound {s s' : Socket} (h : s.Rests s'.reader)
    (hauthorization : s'.authorization = s.authorization) : s'.ReaderSound := by
  unfold ReaderSound
  rw [hauthorization]
  cases hreader : s'.reader with
  | registering session =>
    rw [hreader] at h
    exact fun hsession => Eq.mp (congrArg (· = true) h) hsession
  | queueing command pending =>
    rw [hreader] at h
    cases pending with
    | none => trivial
    | some action => exact h.elim
  | lookingUp pending =>
    rw [hreader] at h
    exact h.elim
  | waiting | findingDevice name clientId | executing asked | finished => trivial

theorem Sound.acts {s s' : Socket} (h : s.Sound) (hconfirmed : s.Confirmed)
    (hlicensed : s.authorization.authenticated → Licensed s.log) (hacts : s.Acts s') :
    s'.Steady := by
  obtain ⟨events, reader, rfl, hlogs, hrests⟩ := hacts
  have hone : ∀ e : SocketEvent, e ≠ .downgraded → e.expiry = none →
      (e.mutates → s.authorization.authenticated) →
        Socket.Steady { s with log := s.log ++ [e], reader := reader } := by
    intro e hne hexpiry hmutates
    have hs := h.record hne hexpiry fun hevent => hlicensed (hmutates hevent)
    exact ⟨⟨hs.lost, hs.projected, hs.known, hs.licensed⟩, fun _ => hconfirmed.record e,
      hrests.readerSound rfl⟩
  rcases hlogs with rfl | ⟨clientId, positionMs, rfl⟩ | ⟨hauth, e, hevent, rfl⟩
  · rw [List.append_nil]
    exact ⟨⟨h.lost, h.projected, h.known, h.licensed⟩, fun _ => hconfirmed, hrests.readerSound rfl⟩
  · exact hone _ (by simp) rfl (by simp [SocketEvent.mutates])
  · refine hone e ?_ ?_ fun _ => hauth
    · rintro rfl
      cases hevent
    · cases e <;> first | rfl | cases hevent

theorem Sound.settle_lost {s : Socket} (h : s.Sound) {authorization : SessionAuthorization}
    (htoken : authorization.token = none) (lost : String × ErrorCode)
    (pending : Option ClientAction) : (s.settle authorization (some lost) pending).Steady := by
  have hguest := SessionAuthorization.not_authenticated htoken
  have hlicensed : ActionsLicensed (s.log ++ [.downgraded]) :=
    h.licensed.append fun hevent => by cases hevent
  refine ⟨⟨fun _ => htoken, fun hsession => Bool.noConfusion hsession,
    fun hauth => absurd hauth hguest, hlicensed⟩, fun _ hauth => absurd hauth hguest, ?_⟩
  cases pending with
  | none => trivial
  | some action => exact htoken

theorem Sound.settle_kept {s : Socket} {authorization : SessionAuthorization}
    (h : Sound { s with authorization := authorization })
    (hconfirmed : Confirmed { s with authorization := authorization })
    (hlicensed : authorization.authenticated → Licensed s.log) (pending : Option ClientAction) :
    (s.settle authorization none pending).Steady :=
  h.acts hconfirmed hlicensed (acts_proceed _ pending)

end Socket

/-! ## The recheck -/

theorem refreshAuthorization_cases (hasAuth : Bool) (authorization : SessionAuthorization)
    (now : Option ℤ) (instant : ℕ) :
    (authorization.token = none ∧
      refreshAuthorization hasAuth authorization now instant = .settled authorization none) ∨
    (∃ guest lost, guest.token = none ∧
      refreshAuthorization hasAuth authorization now instant = .settled guest (some lost)) ∨
    (authorization.authenticated ∧ ∃ time, now = some time ∧
      (∀ expiresAt, authorization.expiresAt = some expiresAt → time < expiresAt) ∧
      ((instant - authorization.lastDatabaseCheck < sessionRecheckInterval ∧
          refreshAuthorization hasAuth authorization now instant = .settled authorization none) ∨
        refreshAuthorization hasAuth authorization now instant =
          .lookup { authorization with lastDatabaseCheck := instant })) := by
  unfold refreshAuthorization
  by_cases htoken : authorization.token.isNone
  · rw [if_pos htoken]
    exact .inl ⟨Option.isNone_iff_eq_none.mp htoken, rfl⟩
  rw [if_neg htoken]
  have hauth : authorization.authenticated = true := by
    simpa [SessionAuthorization.authenticated, Option.isSome_iff_ne_none] using htoken
  cases now with
  | none => exact .inr (.inl ⟨_, _, rfl, rfl⟩)
  | some time =>
    simp only
    by_cases hexpired : authorization.expiresAt.any (· ≤ time)
    · rw [if_pos hexpired]
      exact .inr (.inl ⟨_, _, rfl, rfl⟩)
    rw [if_neg hexpired]
    have hfuture : ∀ expiresAt, authorization.expiresAt = some expiresAt → time < expiresAt := by
      intro expiresAt hsome
      simpa [hsome] using hexpired
    by_cases hrecent : instant - authorization.lastDatabaseCheck < sessionRecheckInterval
    · rw [if_pos hrecent]
      exact .inr (.inr ⟨hauth, time, rfl, hfuture, .inl ⟨hrecent, rfl⟩⟩)
    rw [if_neg hrecent]
    cases hasAuth with
    | true => exact .inr (.inr ⟨hauth, time, rfl, hfuture, .inr rfl⟩)
    | false => exact .inr (.inl ⟨_, _, rfl, rfl⟩)

namespace Socket

theorem Sound.checkedAt {s : Socket} (h : s.Sound) (hauth : s.authorization.authenticated)
    {time : ℤ} (hfuture : ∀ x, s.authorization.expiresAt = some x → time < x) (instant : ℕ) :
    CheckedAt (s.log ++ [.checked (some time) instant]) instant := by
  obtain ⟨expiresAt, hsome, hlast⟩ := h.known hauth
  exact ⟨s.log, time, expiresAt, [], rfl, hlast, hfuture expiresAt hsome, by simp⟩

theorem Steady.refresh {s : Socket} (h : s.Steady) (hreader : s.reader = .waiting)
    (now : Option ℤ) (pending : Option ClientAction) : (s.refresh now pending).Steady := by
  have hconfirmed : s.Confirmed := h.confirmed fun _ => by simp [hreader]
  have hrecord : (s.record (.checked now s.instant)).Sound :=
    h.toSound.record (by simp) rfl fun hevent => by cases hevent
  have hrecent := hconfirmed.record (.checked now s.instant)
  unfold Socket.refresh
  rcases refreshAuthorization_cases s.hasAuth s.authorization now s.instant with
    ⟨htoken, heq⟩ | ⟨guest, lost, hguest, heq⟩ | ⟨hauth, time, rfl, hfuture, ⟨hcheck, heq⟩ | heq⟩
  · simp only [record, heq]
    exact hrecord.settle_kept hrecent
      (fun hauth => absurd hauth (SessionAuthorization.not_authenticated htoken)) pending
  · simp only [record, heq]
    exact hrecord.settle_lost hguest lost pending
  · simp only [record, heq]
    refine hrecord.settle_kept hrecent (fun _ => ⟨fun hmem => ?_, s.instant, ?_, ?_⟩) pending
    · exact absurd hauth (SessionAuthorization.not_authenticated (hrecord.lost hmem))
    · exact h.toSound.checkedAt hauth hfuture s.instant
    · obtain ⟨t, ht, hle⟩ := hrecent hauth
      have hle : s.authorization.lastDatabaseCheck ≤ t := hle
      exact ⟨t, ht, by omega⟩
  · simp only [record, heq]
    exact ⟨⟨hrecord.lost, hrecord.projected, hrecord.known, hrecord.licensed⟩,
      fun hne => absurd rfl (hne pending), hauth, h.toSound.checkedAt hauth hfuture s.instant,
      le_refl _⟩

theorem Steady.answer {s : Socket} (h : s.Steady) {pending : Option ClientAction}
    (hreader : s.reader = .lookingUp pending) (result : SessionAnswer) :
    (s.answer result pending).Steady := by
  have hphase := h.reader
  simp only [ReaderSound, hreader] at hphase
  obtain ⟨hauth, hchecked, hle⟩ := hphase
  have hheld : .downgraded ∉ s.log := fun hmem =>
    SessionAuthorization.not_authenticated (h.lost hmem) hauth
  have hguest : s.authorization.downgrade.token = none := rfl
  cases result with
  | authenticated expiresAt =>
    let renewed : SessionAuthorization := { s.authorization with expiresAt := some expiresAt }
    let recorded := s.record (.confirmed s.instant expiresAt)
    have hconfirmedAt : ConfirmedAt recorded.log s.instant :=
      ⟨some expiresAt, .inr ⟨expiresAt, rfl, List.mem_concat_self⟩⟩
    have hlost : .downgraded ∉ recorded.log := by simpa [recorded, record] using hheld
    have hlast : lastKnownExpiry recorded.log = some expiresAt := lastKnownExpiry_append _ _
    have hsound : Sound { recorded with authorization := renewed } :=
      ⟨fun hmem => absurd hmem hlost, h.projected, fun _ => ⟨expiresAt, rfl, hlast⟩,
        h.licensed.append fun hevent => by cases hevent⟩
    have hchecked : CheckedAt recorded.log s.authorization.lastDatabaseCheck :=
      hchecked.append fun _ => ⟨_, _, rfl⟩
    have hpositive : 0 < sessionRecheckInterval := by decide
    exact hsound.settle_kept (fun _ => ⟨s.instant, hconfirmedAt, hle⟩)
      (fun _ => ⟨hlost, _, hchecked, s.instant, hconfirmedAt, by omega⟩) pending
  | expired | missing | failed =>
    unfold Socket.answer
    exact h.toSound.settle_lost hguest _ pending

/-! ## Steps keep the reader's invariant -/

/-- A step beside the reader: it logs at most an event that is none of the reader's. -/
def Beside (s s' : Socket) : Prop :=
  s'.authorization = s.authorization ∧ s'.projection = s.projection ∧ s'.reader = s.reader ∧
    s.instant ≤ s'.instant ∧ (s'.log = s.log ∨
      ∃ e : SocketEvent, e.ofReader = false ∧ e.expiry = none ∧ s'.log = s.log ++ [e])

theorem Steady.beside {s s' : Socket} (h : s.Steady) (hbeside : s.Beside s') : s'.Steady := by
  obtain ⟨hauthorization, hprojection, hreader, hinstant, hlog⟩ := hbeside
  have hphase := h.reader
  obtain ⟨hasAuth, hasDevices, hasCatalog, instant, authorization, projection, projectionChanged,
    latest, publicationChanged, samples, commands, cancelled, reader, writer, log⟩ := s'
  obtain rfl : authorization = s.authorization := hauthorization
  obtain rfl : projection = s.projection := hprojection
  obtain rfl : reader = s.reader := hreader
  rcases hlog with hlog | ⟨e, he, hexpiry, hlog⟩
  · obtain rfl : log = s.log := hlog
    refine ⟨⟨h.lost, h.projected, h.known, h.licensed⟩, h.confirmed, ?_⟩
    unfold ReaderSound at hphase ⊢
    dsimp only
    split at hphase
    · exact hphase
    · exact hphase
    · exact ⟨hphase.1, hphase.2.1, hphase.2.2.trans hinstant⟩
    · trivial
  · obtain rfl : log = s.log ++ [e] := hlog
    have hnot : ¬ e.ofReader := by simp [he]
    have hlost : e ≠ .downgraded := fun heq => hnot (by rw [heq]; rfl)
    have hmutates : ¬ e.mutates := by cases e <;> simp_all [SocketEvent.mutates, SocketEvent.ofReader]
    have hs := h.toSound.record hlost hexpiry fun hevent => absurd hevent hmutates
    refine ⟨⟨hs.lost, hs.projected, hs.known, hs.licensed⟩,
      fun hne => (h.confirmed hne).record e, ?_⟩
    unfold ReaderSound at hphase ⊢
    dsimp only
    split at hphase
    · exact hphase
    · exact hphase
    · exact ⟨hphase.1, hphase.2.1.append fun hevent => absurd hevent hnot,
        hphase.2.2.trans hinstant⟩
    · trivial

/-- A step of the reader that logs nothing and changes no authorization; a registration may
be projected. -/
theorem Steady.rests {s s' : Socket} (h : s.Steady)
    (hreader : ∀ pending, s.reader ≠ .lookingUp pending)
    (hauthorization : s'.authorization = s.authorization) (hlog : s'.log = s.log)
    (hprojected : s'.projection.authenticated → s.authorization.authenticated)
    (hrests : s.Rests s'.reader) : s'.Steady := by
  obtain ⟨hasAuth, hasDevices, hasCatalog, instant, authorization, projection, projectionChanged,
    latest, publicationChanged, samples, commands, cancelled, reader, writer, log⟩ := s'
  obtain rfl : authorization = s.authorization := hauthorization
  obtain rfl : log = s.log := hlog
  exact ⟨⟨h.lost, hprojected, h.known, h.licensed⟩, fun _ => h.confirmed hreader,
    hrests.readerSound rfl⟩

theorem Steady.proceeds {s s' : Socket} (h : s.Steady) {command : WriterCommand}
    {pending : Option ClientAction} (hreader : s.reader = .queueing command pending)
    (hauthorization : s'.authorization = s.authorization)
    (hprojection : s'.projection = s.projection) (hlog : s'.log = s.log) :
    (s'.proceed pending).Steady := by
  have hne : ∀ pending, s.reader ≠ .lookingUp pending := fun _ => by simp [hreader]
  cases pending with
  | none =>
    exact h.rests hne hauthorization hlog (fun hs => h.projected (hprojection ▸ hs)) trivial
  | some action =>
    have htoken := h.reader
    simp only [ReaderSound, hreader] at htoken
    have hguest : ¬ s'.authorization.authenticated :=
      SessionAuthorization.not_authenticated (hauthorization ▸ htoken)
    have hsound : s'.Sound :=
      ⟨fun _ => hauthorization ▸ htoken,
        fun hs => hauthorization ▸ h.projected (hprojection ▸ hs),
        fun hauth => absurd hauth hguest, hlog ▸ h.licensed⟩
    exact hsound.acts (fun hauth => absurd hauth hguest) (fun hauth => absurd hauth hguest)
      (acts_handleAction _ action)

theorem beside_sendProjectedState (s : Socket) (sample : Sample) (session : SessionProjection)
    (snapshot : Bool) : s.Beside (s.sendProjectedState sample session snapshot) := by
  unfold sendProjectedState
  split
  · exact ⟨rfl, rfl, rfl, le_refl _, .inl rfl⟩
  · exact ⟨rfl, rfl, rfl, le_refl _, .inr ⟨_, rfl, rfl, rfl⟩⟩

theorem Steady.exec {s s' : Socket} (h : s.Steady) {label : SocketLabel}
    (hstep : s.exec label = some s') : s'.Steady := by
  have hwaiting : s.reader = .waiting → ∀ pending, s.reader ≠ .lookingUp pending := by
    intro hreader pending
    simp [hreader]
  cases label with
  | elapsed milliseconds =>
    cases hstep
    exact h.beside ⟨rfl, rfl, rfl, Nat.le_add_right _ _, .inl rfl⟩
  | shutdown =>
    cases hstep
    exact h.beside ⟨rfl, rfl, rfl, le_refl _, .inl rfl⟩
  | published publication =>
    cases hstep
    exact h.beside ⟨rfl, rfl, rfl, le_refl _, .inr ⟨_, rfl, rfl, rfl⟩⟩
  | ticked now =>
    obtain ⟨hcond, hs'⟩ := Option.ite_none_right_eq_some.mp hstep
    cases hs'
    exact h.refresh hcond.1 now none
  | received action now =>
    obtain ⟨hcond, hs'⟩ := Option.ite_none_right_eq_some.mp hstep
    cases hs'
    exact h.refresh hcond now (some action)
  | receivedInvalid | receivedPing bytes | closed =>
    obtain ⟨hcond, hs'⟩ := Option.ite_none_right_eq_some.mp hstep
    cases hs'
    exact h.rests (hwaiting hcond) rfl rfl h.projected trivial
  | answered result =>
    simp only [Socket.exec] at hstep
    split at hstep
    · next pending hreader =>
      cases hstep
      exact h.answer hreader result
    · cases hstep
  | queued =>
    simp only [Socket.exec] at hstep
    split at hstep
    · next command pending hreader =>
      obtain ⟨-, hs'⟩ := Option.ite_none_right_eq_some.mp hstep
      cases hs'
      exact h.proceeds hreader rfl rfl rfl
    · cases hstep
  | queueTimedOut =>
    simp only [Socket.exec] at hstep
    split at hstep
    · next command pending hreader =>
      cases hstep
      exact h.proceeds hreader rfl rfl rfl
    · cases hstep
  | deviceFound device =>
    simp only [Socket.exec] at hstep
    split at hstep
    · next name clientId hreader =>
      split at hstep
      · cases hstep
        exact h.rests (fun _ => by simp [hreader]) rfl rfl h.projected trivial
      · cases hstep
        exact h.rests (fun _ => by simp [hreader]) rfl rfl h.projected rfl
    · cases hstep
  | registered accepted =>
    have hphase := h.reader
    simp only [Socket.exec] at hstep
    split at hstep
    · next session hreader =>
      simp only [ReaderSound, hreader] at hphase
      split at hstep
      · cases hstep
        exact h.rests (fun _ => by simp [hreader]) rfl rfl hphase trivial
      · cases hstep
        exact h.rests (fun _ => by simp [hreader]) rfl rfl h.projected trivial
    · cases hstep
  | executed result =>
    simp only [Socket.exec] at hstep
    split at hstep
    · next asked hreader =>
      split at hstep
      · cases hstep
        exact h.rests (fun _ => by simp [hreader]) rfl rfl h.projected trivial
      · cases hstep
        exact h.rests (fun _ => by simp [hreader]) rfl rfl h.projected trivial
    · cases hstep
  | readerCancelled =>
    obtain ⟨hcond, hs'⟩ := Option.ite_none_right_eq_some.mp hstep
    cases hs'
    exact h.rests (hwaiting hcond.1) rfl rfl h.projected trivial
  | started | projectedPublication | projectedSnapshot =>
    simp only [Socket.exec] at hstep
    split at hstep
    · cases hstep
      exact h.beside (s.beside_sendProjectedState _ _ _)
    · cases hstep
  | tookCommand =>
    simp only [Socket.exec] at hstep
    split at hstep
    · cases hstep
      exact h.beside ⟨rfl, rfl, rfl, le_refl _, .inr ⟨_, rfl, rfl, rfl⟩⟩
    · cases hstep
      exact h.beside ⟨rfl, rfl, rfl, le_refl _, .inl rfl⟩
    · cases hstep
  | tookPublication | tookProjection | lagged | writerCancelled =>
    obtain ⟨-, hs'⟩ := Option.ite_none_right_eq_some.mp hstep
    cases hs'
    exact h.beside ⟨rfl, rfl, rfl, le_refl _, .inl rfl⟩
  | snapshotSampled publication =>
    simp only [Socket.exec] at hstep
    split at hstep
    · cases hstep
      exact h.beside ⟨rfl, rfl, rfl, le_refl _, .inr ⟨_, rfl, rfl, rfl⟩⟩
    · cases hstep
  | snapshotFailed =>
    simp only [Socket.exec] at hstep
    split at hstep
    · cases hstep
      exact h.beside ⟨rfl, rfl, rfl, le_refl _, .inl rfl⟩
    · cases hstep
  | tookSfx soundboardId itemPath volume =>
    obtain ⟨-, hs'⟩ := Option.ite_none_right_eq_some.mp hstep
    cases hs'
    exact h.beside ⟨rfl, rfl, rfl, le_refl _, .inr ⟨_, rfl, rfl, rfl⟩⟩
  | sendFinished delivered =>
    obtain ⟨-, hs'⟩ := Option.ite_none_right_eq_some.mp hstep
    split at hs'
    · cases hs'
      exact h.beside ⟨rfl, rfl, rfl, le_refl _, .inl rfl⟩
    · cases hs'
      exact h.beside ⟨rfl, rfl, rfl, le_refl _, .inl rfl⟩

end Socket

end MusicServer.WebSocket
