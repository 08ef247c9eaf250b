/-
# The preset chain of a browser

`core/audioEngine.tsx`: a change of the signature of the player state starts a run of `syncPresets`,
which asks the server for the list of presets only where the revision moved or an active id is not
cached, and drops the answer of a run that another one has superseded.
-/
import Mathlib.Order.Monotone.Basic
import Mathlib.Order.Nat

namespace MusicServer

namespace Browser

/-! ## The server, as the browser sees it -/

structure PresetManifest (E : Type) where
  id : String
  effects : E
  deriving DecidableEq

/-- The moments of the server: the presets of every mode, and a revision that only grows. -/
structure PresetServer (E : Type) where
  presets : ℕ → String → List (PresetManifest E)
  revision : ℕ → ℕ
  revision_mono : Monotone revision

/-- What `recompute` reads of a player state. -/
structure PresetState where
  activeModeId : Option String
  activePresetIds : List String
  presetRevision : ℕ
  isOutput : Bool
  deriving DecidableEq

abbrev PresetCache (E : Type) := String → Option (PresetManifest E)

variable {E : Type}

def emptyCache : PresetCache E := fun _ => none

/-- The cache after `cache.set` for every preset of an answer, in order. -/
def fillCache (all : List (PresetManifest E)) : PresetCache E :=
  all.foldl (fun cache manifest id => if id = manifest.id then some manifest else cache id)
    emptyCache

def PresetServer.documents (server : PresetServer E) (moment : ℕ) : Option String → PresetCache E
  | none => emptyCache
  | some modeId => fillCache (server.presets moment modeId)

/-! ## The browser -/

/-- The parts of the signature text; ids are slugs, so the text tells them apart. -/
structure Signature where
  isMine : Bool
  modeId : Option String
  ids : List String
  presetRevision : ℕ
  deriving DecidableEq

/-- A run of `syncPresets` that waits for its answer. -/
structure ListRequest where
  generation : ℕ
  modeId : String
  activeIds : List String
  sentAt : ℕ
  deriving DecidableEq

structure PresetSync (E : Type) where
  cache : PresetCache E
  isMine : Bool
  cacheModeId : Option String
  syncGeneration : ℕ
  toastedError : Bool
  lastSig : Option Signature
  lastPresetRevision : ℕ
  /-- The player state and the local override, in their stores. -/
  state : Option PresetState
  forceLocalPlayback : Bool
  requests : List ListRequest
  /-- What the engine was given last. -/
  chain : Option (List (PresetManifest E))
  /-- The moment it is, and that of the last state. -/
  now : ℕ
  heardAt : ℕ
  /-- The revision moved, and no answer has filled the cache since. -/
  owed : Bool

def initialSync (E : Type) : PresetSync E where
  cache := emptyCache
  isMine := false
  cacheModeId := none
  syncGeneration := 0
  toastedError := false
  lastSig := none
  lastPresetRevision := 0
  state := none
  forceLocalPlayback := false
  requests := []
  chain := none
  now := 0
  heardAt := 0
  owed := false

namespace PresetSync

def pushChain (sync : PresetSync E) (activeIds : List String) : PresetSync E :=
  { sync with
    chain := if sync.isMine then some (activeIds.filterMap sync.cache) else sync.chain }

def enterMode (sync : PresetSync E) (modeId : Option String) : PresetSync E :=
  if modeId ≠ sync.cacheModeId then
    { sync with cache := emptyCache, cacheModeId := modeId, owed := false }
  else sync

def missing (sync : PresetSync E) (activeIds : List String) : List String :=
  activeIds.filter fun id => (sync.cache id).isNone

def syncPresets (sync : PresetSync E) (modeId : Option String) (activeIds : List String)
    (forceRefresh : Bool) : PresetSync E :=
  let sync := { sync with syncGeneration := sync.syncGeneration + 1 }.enterMode modeId
  match modeId with
  | some mode =>
    if forceRefresh = true ∨ sync.missing activeIds ≠ [] then
      { sync with
        requests := sync.requests ++ [⟨sync.syncGeneration, mode, activeIds, sync.now⟩] }
    else sync.pushChain activeIds
  | none => sync.pushChain activeIds

def signature (isMine : Bool) (state : PresetState) : Signature :=
  ⟨isMine, state.activeModeId, state.activePresetIds, state.presetRevision⟩

def recompute (sync : PresetSync E) : PresetSync E :=
  match sync.state with
  | none => sync
  | some state =>
    let sync := { sync with isMine := state.isOutput || sync.forceLocalPlayback }
    let sig := signature sync.isMine state
    if some sig = sync.lastSig then sync
    else
      let forceRefresh :=
        sync.lastSig.isSome && state.presetRevision ≠ sync.lastPresetRevision
      let sync := { sync with
        lastSig := some sig
        lastPresetRevision := state.presetRevision
        owed := sync.owed || forceRefresh }
      sync.syncPresets state.activeModeId state.activePresetIds forceRefresh

/-- An answer; that of a superseded run is dropped. -/
def answer (sync : PresetSync E) (request : ListRequest) (all : List (PresetManifest E)) :
    PresetSync E :=
  let sync := { sync with requests := sync.requests.erase request }
  if request.generation ≠ sync.syncGeneration then sync
  else
    ({ sync with cache := fillCache all, toastedError := false, owed := false } :
      PresetSync E).pushChain request.activeIds

/-- A request that fails: the operator is told once, and the run goes on with what is cached. -/
def fail (sync : PresetSync E) (request : ListRequest) : PresetSync E :=
  let sync := { sync with requests := sync.requests.erase request }
  if request.generation ≠ sync.syncGeneration then sync
  else ({ sync with toastedError := true } : PresetSync E).pushChain request.activeIds

end PresetSync

/-! ## Events -/

inductive SyncEvent where
  /-- The server moves on. -/
  | moment
  /-- A state of some moment is told, and not before an older one. -/
  | state (at_ : ℕ) (state : PresetState)
  | override (forceLocalPlayback : Bool)
  /-- The list as it was at some moment after the request was sent. -/
  | answered (request : ListRequest) (at_ : ℕ)
  | failed (request : ListRequest)

def PresetSync.step (server : PresetServer E) (sync : PresetSync E) :
    SyncEvent → Option (PresetSync E)
  | .moment => some { sync with now := sync.now + 1 }
  | .state at_ state =>
    if sync.heardAt ≤ at_ ∧ at_ ≤ sync.now ∧ state.presetRevision = server.revision at_ then
      some ({ sync with state := some state, heardAt := at_ } : PresetSync E).recompute
    else none
  | .override force => some ({ sync with forceLocalPlayback := force } : PresetSync E).recompute
  | .answered request at_ =>
    if request ∈ sync.requests ∧ request.sentAt ≤ at_ ∧ at_ ≤ sync.now then
      some (sync.answer request (server.presets at_ request.modeId))
    else none
  | .failed request => if request ∈ sync.requests then some (sync.fail request) else none

/-- A state or a role, told or toggled, that changes the signature of a browser whose cache is owed a
refresh, and none of it makes the browser ask for the list. -/
def PresetSync.Loses (sync : PresetSync E) (state : PresetState) (force : Bool) : Prop :=
  sync.owed = true ∧ some (PresetSync.signature (state.isOutput || force) state) ≠ sync.lastSig ∧
    state.activeModeId = sync.cacheModeId ∧ state.presetRevision = sync.lastPresetRevision ∧
    state.activePresetIds ≠ [] ∧ sync.missing state.activePresetIds = []

instance (sync : PresetSync E) (state : PresetState) (force : Bool) :
    Decidable (sync.Loses state force) :=
  inferInstanceAs (Decidable (_ ∧ _))

def PresetSync.Careful (sync : PresetSync E) : SyncEvent → Prop
  | .state _ state => ¬ sync.Loses state sync.forceLocalPlayback
  | .override force => ∀ state ∈ sync.state, ¬ sync.Loses state force
  | _ => True

/-- The events of a browser, one after another. -/
def PresetSync.run (server : PresetServer E) :
    PresetSync E → List SyncEvent → Option (PresetSync E)
  | sync, [] => some sync
  | sync, event :: rest =>
    match sync.step server event with
    | some next => next.run server rest
    | none => none

instance decidableCareful (sync : PresetSync E) : ∀ event, Decidable (sync.Careful event)
  | .moment => isTrue trivial
  | .state _ state => inferInstanceAs (Decidable (¬ sync.Loses state _))
  | .override force => inferInstanceAs (Decidable (∀ state ∈ sync.state, ¬ sync.Loses state force))
  | .answered _ _ => isTrue trivial
  | .failed _ => isTrue trivial

def PresetSync.CarefulRun (server : PresetServer E) : PresetSync E → List SyncEvent → Prop
  | _, [] => True
  | sync, event :: rest =>
    sync.Careful event ∧
      ∀ next ∈ sync.step server event, next.CarefulRun server rest

instance decidableCarefulRun (server : PresetServer E) :
    ∀ (sync : PresetSync E) (events : List SyncEvent), Decidable (sync.CarefulRun server events)
  | _, [] => isTrue trivial
  | sync, event :: rest =>
    have (next : PresetSync E) := decidableCarefulRun server next rest
    inferInstanceAs (Decidable (sync.Careful event ∧
      ∀ next ∈ sync.step server event, next.CarefulRun server rest))

/-! ## What a run keeps -/

/-- The chain is made of the documents of a moment at which the revision was the last one told. -/
def PresetSync.Current (server : PresetServer E) (sync : PresetSync E) (state : PresetState) :
    Prop :=
  ∃ moment ≤ sync.now, state.presetRevision ≤ server.revision moment ∧
    sync.chain = some
      (state.activePresetIds.filterMap (server.documents moment state.activeModeId))

/-- What the engine of synchronisation remembers of the state it has. -/
structure PresetSync.Remembers (sync : PresetSync E) (state : PresetState) : Prop where
  isMine : sync.isMine = (state.isOutput || sync.forceLocalPlayback)
  lastSig : sync.lastSig = some (PresetSync.signature sync.isMine state)
  lastPresetRevision : sync.lastPresetRevision = state.presetRevision
  cacheModeId : sync.cacheModeId = state.activeModeId

/-- A request of the run that is not superseded asks for what the state has. -/
structure ListRequest.Current (server : PresetServer E) (sync : PresetSync E)
    (request : ListRequest) : Prop where
  state : ∃ state, sync.state = some state ∧ state.activeModeId = some request.modeId ∧
    state.activePresetIds = request.activeIds
  revision : sync.lastPresetRevision ≤ server.revision request.sentAt

structure PresetSync.Sound (server : PresetServer E) (sync : PresetSync E) : Prop where
  heard : sync.heardAt ≤ sync.now
  told : ∀ state, sync.state = some state → state.presetRevision = server.revision sync.heardAt ∧
    sync.Remembers state
  blank : sync.state = none →
    sync.lastSig = none ∧ sync.requests = [] ∧ sync.cache = emptyCache ∧ sync.owed = false
  cached : sync.cache = emptyCache ∨ ∃ moment ≤ sync.now,
    sync.cache = server.documents moment sync.cacheModeId ∧
      (sync.owed = false → sync.lastPresetRevision ≤ server.revision moment)
  asked : ∀ request ∈ sync.requests, request.generation ≤ sync.syncGeneration ∧
    request.sentAt ≤ sync.now ∧
      (request.generation = sync.syncGeneration → request.Current server sync)
  given : (∀ request ∈ sync.requests, request.generation ≠ sync.syncGeneration) →
    ∀ state, sync.state = some state → sync.isMine = true → sync.Current server state

theorem initialSync_sound (server : PresetServer E) : (initialSync E).Sound server where
  heard := Nat.le_refl 0
  told := by simp [initialSync]
  blank := fun _ => ⟨rfl, rfl, rfl, rfl⟩
  cached := Or.inl rfl
  asked := by simp [initialSync]
  given := by simp [initialSync]

section Steps

variable {server : PresetServer E} {sync : PresetSync E}

theorem PresetSync.cache_of_missing {ids : List String} (hids : ids ≠ [])
    (hmissing : sync.missing ids = []) : sync.cache ≠ emptyCache := by
  intro hempty
  obtain ⟨id, hid⟩ := List.exists_mem_of_ne_nil ids hids
  have hnone : id ∈ sync.missing ids := by
    simp [PresetSync.missing, hid, hempty, emptyCache]
  rw [hmissing] at hnone
  cases hnone

variable {state : PresetState}

theorem PresetSync.current_of_empty (hchain : sync.chain = some [])
    (hrevision : state.presetRevision ≤ server.revision sync.now)
    (hempty : state.activePresetIds = [] ∨ state.activeModeId = none) :
    sync.Current server state := by
  refine ⟨sync.now, le_rfl, hrevision, ?_⟩
  rw [hchain]
  rcases hempty with hids | hmode
  · rw [hids]
    rfl
  · rw [hmode]
    simp [PresetServer.documents, emptyCache]

theorem PresetSync.Sound.moment (h : sync.Sound server) :
    ({ sync with now := sync.now + 1 } : PresetSync E).Sound server where
  heard := Nat.le_succ_of_le h.heard
  told := fun state hstate =>
    ⟨(h.told state hstate).1, ⟨(h.told state hstate).2.isMine, (h.told state hstate).2.lastSig,
      (h.told state hstate).2.lastPresetRevision, (h.told state hstate).2.cacheModeId⟩⟩
  blank := h.blank
  cached := h.cached.imp id fun ⟨moment, hmoment, hcache⟩ =>
    ⟨moment, Nat.le_succ_of_le hmoment, hcache⟩
  asked := fun request hrequest => by
    obtain ⟨hgeneration, hsent, hcurrent⟩ := h.asked request hrequest
    exact ⟨hgeneration, Nat.le_succ_of_le hsent, fun hsame =>
      ⟨(hcurrent hsame).state, (hcurrent hsame).revision⟩⟩
  given := fun hnone state hstate hmine => by
    obtain ⟨moment, hmoment, hrevision, hchain⟩ := h.given hnone state hstate hmine
    exact ⟨moment, Nat.le_succ_of_le hmoment, hrevision, hchain⟩

theorem PresetSync.Sound.answer (h : sync.Sound server) {request : ListRequest}
    (hrequest : request ∈ sync.requests) {moment : ℕ} (hsent : request.sentAt ≤ moment)
    (hmoment : moment ≤ sync.now) :
    (sync.answer request (server.presets moment request.modeId)).Sound server := by
  have hsome : sync.state ≠ none := by
    intro hnone
    rw [(h.blank hnone).2.1] at hrequest
    cases hrequest
  have hkept : ∀ other ∈ sync.requests.erase request, other ∈ sync.requests :=
    fun other hother => List.mem_of_mem_erase hother
  unfold PresetSync.answer
  dsimp only
  split
  · rename_i hold
    refine ⟨h.heard, fun state hstate => ?_, fun hnone => absurd hnone hsome, h.cached,
      fun other hother => ?_, fun hnone state hstate hmine => ?_⟩
    · obtain ⟨hrevision, hremembers⟩ := h.told state hstate
      exact ⟨hrevision, ⟨hremembers.isMine, hremembers.lastSig, hremembers.lastPresetRevision,
        hremembers.cacheModeId⟩⟩
    · obtain ⟨hgeneration, hat, hcurrent⟩ := h.asked other (hkept other hother)
      exact ⟨hgeneration, hat, fun hsame => ⟨(hcurrent hsame).state, (hcurrent hsame).revision⟩⟩
    · refine h.given (fun other hother => ?_) state hstate hmine
      by_cases hsame : other = request
      · rw [hsame]
        exact hold
      · exact hnone other ((List.mem_erase_of_ne hsame).mpr hother)
  · rename_i hsame
    simp only [ne_eq, not_not] at hsame
    obtain ⟨_, _, hcurrent⟩ := h.asked request hrequest
    obtain ⟨⟨state, hstate, hmode, hids⟩, hrevision⟩ := hcurrent hsame
    obtain ⟨htold, hremembers⟩ := h.told state hstate
    have hcache : fillCache (server.presets moment request.modeId) =
        server.documents moment sync.cacheModeId := by
      rw [hremembers.cacheModeId, hmode]
      rfl
    have hfresh : sync.lastPresetRevision ≤ server.revision moment :=
      hrevision.trans (server.revision_mono hsent)
    unfold PresetSync.pushChain
    refine ⟨h.heard, fun other hother => ?_, fun hnone => absurd hnone hsome,
      Or.inr ⟨moment, hmoment, hcache, fun _ => hfresh⟩, fun other hother => ?_,
      fun _ other hother hmine => ?_⟩
    · obtain ⟨htold', hremembers'⟩ := h.told other hother
      exact ⟨htold', ⟨hremembers'.isMine, hremembers'.lastSig, hremembers'.lastPresetRevision,
        hremembers'.cacheModeId⟩⟩
    · obtain ⟨hgeneration, hat, hcurrent'⟩ := h.asked other (hkept other hother)
      exact ⟨hgeneration, hat, fun hsame' => ⟨(hcurrent' hsame').state, (hcurrent' hsame').revision⟩⟩
    · have hother' : other = state := by
        have hboth : some other = some state := hother.symm.trans hstate
        exact Option.some.inj hboth
      subst hother'
      refine ⟨moment, hmoment, ?_, ?_⟩
      · rw [← hremembers.lastPresetRevision]
        exact hfresh
      · rw [← hremembers.cacheModeId, ← hcache, hids]
        exact if_pos hmine

/-- A new run of `syncPresets` has begun, and the cache is that of the mode. -/
structure PresetSync.Entered (server : PresetServer E) (sync : PresetSync E) (state : PresetState) :
    Prop where
  has : sync.state = some state
  heard : sync.heardAt ≤ sync.now
  told : state.presetRevision = server.revision sync.heardAt
  remembers : sync.Remembers state
  cached : sync.cache = emptyCache ∨ ∃ moment ≤ sync.now,
    sync.cache = server.documents moment sync.cacheModeId ∧
      (sync.owed = false → sync.lastPresetRevision ≤ server.revision moment)
  superseded : ∀ request ∈ sync.requests, request.generation < sync.syncGeneration ∧
    request.sentAt ≤ sync.now

theorem PresetSync.Entered.revision (h : sync.Entered server state) :
    state.presetRevision ≤ server.revision sync.now := by
  rw [h.told]
  exact server.revision_mono h.heard

theorem PresetSync.Entered.request (h : sync.Entered server state) {mode : String}
    (hmode : state.activeModeId = some mode) :
    ({ sync with
      requests := sync.requests ++
        [⟨sync.syncGeneration, mode, state.activePresetIds, sync.now⟩] } : PresetSync E).Sound
      server := by
  refine ⟨h.heard, fun other hother => ?_, fun hnone => ?_, h.cached, fun request hrequest => ?_,
    fun hsuperseded => ?_⟩
  · have hsame : other = state := Option.some.inj (hother.symm.trans h.has)
    subst hsame
    exact ⟨h.told, ⟨h.remembers.isMine, h.remembers.lastSig, h.remembers.lastPresetRevision,
      h.remembers.cacheModeId⟩⟩
  · exact absurd (h.has.symm.trans hnone) (Option.some_ne_none state)
  · rcases List.mem_append.mp hrequest with hrequest | hrequest
    · obtain ⟨hgeneration, hat⟩ := h.superseded request hrequest
      exact ⟨hgeneration.le, hat, fun hsame => absurd hsame hgeneration.ne⟩
    · rw [List.mem_singleton.mp hrequest]
      refine ⟨le_rfl, le_rfl, fun _ => ⟨⟨state, h.has, hmode, rfl⟩, ?_⟩⟩
      exact h.remembers.lastPresetRevision.le.trans h.revision
  · exact absurd rfl (hsuperseded _ (List.mem_append_right _ (List.mem_singleton_self _)))

theorem PresetSync.Entered.push (h : sync.Entered server state)
    (hdone : state.activeModeId = none ∨ state.activePresetIds = [] ∨
      sync.cache ≠ emptyCache ∧ sync.owed = false) :
    (sync.pushChain state.activePresetIds).Sound server := by
  refine ⟨h.heard, fun other hother => ?_, fun hnone => ?_, h.cached, fun request hrequest => ?_,
    fun _ other hother hmine => ?_⟩
  · have hsame : other = state := Option.some.inj (hother.symm.trans h.has)
    subst hsame
    exact ⟨h.told, ⟨h.remembers.isMine, h.remembers.lastSig, h.remembers.lastPresetRevision,
      h.remembers.cacheModeId⟩⟩
  · exact absurd (h.has.symm.trans hnone) (Option.some_ne_none state)
  · obtain ⟨hgeneration, hat⟩ := h.superseded request hrequest
    exact ⟨hgeneration.le, hat, fun hsame => absurd hsame hgeneration.ne⟩
  · have hsame : other = state := Option.some.inj (hother.symm.trans h.has)
    subst hsame
    have hchain : (sync.pushChain other.activePresetIds).chain =
        some (other.activePresetIds.filterMap sync.cache) := if_pos hmine
    have hblank : other.activePresetIds.filterMap sync.cache = [] →
        other.activePresetIds = [] ∨ other.activeModeId = none →
        (sync.pushChain other.activePresetIds).Current server other := by
      intro hnothing hempty
      refine current_of_empty ?_ h.revision hempty
      rw [hchain, hnothing]
    rcases hdone with hmode | hids | ⟨hcache, howed⟩
    · refine hblank ?_ (Or.inr hmode)
      have hempty : sync.cache = emptyCache := by
        rcases h.cached with hempty | ⟨moment, _, hdocuments, _⟩
        · exact hempty
        · rw [hdocuments, h.remembers.cacheModeId, hmode]
          rfl
      simp [hempty, emptyCache]
    · exact hblank (by simp [hids]) (Or.inl hids)
    · rcases h.cached with hempty | ⟨moment, hmoment, hdocuments, hfresh⟩
      · exact absurd hempty hcache
      · refine ⟨moment, hmoment, ?_, ?_⟩
        · rw [← h.remembers.lastPresetRevision]
          exact hfresh howed
        · rw [hchain, hdocuments, h.remembers.cacheModeId]

/-- What is known before a run of `syncPresets` enters the mode. -/
structure PresetSync.Remembered (server : PresetServer E) (sync : PresetSync E)
    (state : PresetState) : Prop where
  has : sync.state = some state
  heard : sync.heardAt ≤ sync.now
  told : state.presetRevision = server.revision sync.heardAt
  isMine : sync.isMine = (state.isOutput || sync.forceLocalPlayback)
  lastSig : sync.lastSig = some (signature sync.isMine state)
  lastPresetRevision : sync.lastPresetRevision = state.presetRevision
  cached : sync.cache = emptyCache ∨ ∃ moment ≤ sync.now,
    sync.cache = server.documents moment sync.cacheModeId ∧
      (sync.owed = false → sync.lastPresetRevision ≤ server.revision moment)
  asked : ∀ request ∈ sync.requests, request.generation ≤ sync.syncGeneration ∧
    request.sentAt ≤ sync.now

theorem PresetSync.Remembered.enter (h : sync.Remembered server state) :
    (({ sync with syncGeneration := sync.syncGeneration + 1 } : PresetSync E).enterMode
      state.activeModeId).Entered server state ∧
    ((({ sync with syncGeneration := sync.syncGeneration + 1 } : PresetSync E).enterMode
        state.activeModeId).cache = emptyCache ∨
      state.activeModeId = sync.cacheModeId ∧
        ({ sync with syncGeneration := sync.syncGeneration + 1 } : PresetSync E).enterMode
          state.activeModeId = { sync with syncGeneration := sync.syncGeneration + 1 }) := by
  have hsuperseded : ∀ request ∈ sync.requests, request.generation < sync.syncGeneration + 1 ∧
      request.sentAt ≤ sync.now := by
    intro request hrequest
    obtain ⟨hgeneration, hat⟩ := h.asked request hrequest
    exact ⟨by omega, hat⟩
  unfold enterMode
  split
  · exact ⟨⟨h.has, h.heard, h.told, ⟨h.isMine, h.lastSig, h.lastPresetRevision, rfl⟩, Or.inl rfl,
      hsuperseded⟩, Or.inl rfl⟩
  · rename_i hsame
    simp only [ne_eq, not_not] at hsame
    exact ⟨⟨h.has, h.heard, h.told, ⟨h.isMine, h.lastSig, h.lastPresetRevision, hsame.symm⟩,
      h.cached, hsuperseded⟩, Or.inr ⟨hsame, rfl⟩⟩

theorem PresetSync.Remembered.syncPresets (h : sync.Remembered server state) {forceRefresh : Bool}
    (hcareful : sync.owed = true → forceRefresh = false →
      state.activeModeId = sync.cacheModeId → state.activePresetIds ≠ [] →
      sync.missing state.activePresetIds ≠ []) :
    (sync.syncPresets state.activeModeId state.activePresetIds forceRefresh).Sound server := by
  obtain ⟨hentered, hcache⟩ := h.enter
  unfold PresetSync.syncPresets
  dsimp only
  split
  · rename_i mode hmode
    split
    · exact hentered.request hmode
    · rename_i hcalm
      push Not at hcalm
      obtain ⟨hforce, hmissing⟩ := hcalm
      refine hentered.push (Or.inr ?_)
      by_cases hids : state.activePresetIds = []
      · exact Or.inl hids
      · right
        have hfilled := cache_of_missing hids hmissing
        refine ⟨hfilled, ?_⟩
        rcases hcache with hempty | ⟨hmodes, hkept⟩
        · exact absurd hempty hfilled
        · rw [hkept] at hmissing ⊢
          by_contra howed
          exact hcareful (by simpa using howed) (by simpa using hforce) hmodes hids hmissing
  · rename_i hmode
    exact hentered.push (Or.inl hmode)

/-- A state or a role: the list is asked for where the signature changed, or what is cached will
do. -/
theorem PresetSync.Sound.recompute (h : sync.Sound server) {moment : ℕ}
    (hmoment : moment ≤ sync.now) (hrevision : state.presetRevision = server.revision moment)
    (force : Bool) (hcareful : ¬ sync.Loses state force) :
    ({ sync with
      state := some state
      heardAt := moment
      forceLocalPlayback := force } : PresetSync E).recompute.Sound server := by
  unfold PresetSync.recompute
  dsimp only
  split
  · -- the signature is that of the state before
    rename_i hsame
    obtain ⟨old, hold⟩ : ∃ old, sync.state = some old := by
      cases hstate : sync.state with
      | none =>
        rw [(h.blank hstate).1] at hsame
        cases hsame
      | some old => exact ⟨old, rfl⟩
    obtain ⟨_, hremembers⟩ := h.told old hold
    have hsig : signature (state.isOutput || force) state = signature sync.isMine old :=
      Option.some.inj (hsame.trans hremembers.lastSig)
    simp only [signature, Signature.mk.injEq] at hsig
    obtain ⟨hmine, hmode, hids, hrev⟩ := hsig
    refine ⟨hmoment, fun other hother => ?_, fun hnone => absurd hnone (Option.some_ne_none state), h.cached,
      fun request hrequest => ?_, fun hsuperseded other hother hisMine => ?_⟩
    · cases hother
      exact ⟨hrevision, ⟨rfl, hsame.symm, hremembers.lastPresetRevision.trans hrev.symm,
        hremembers.cacheModeId.trans hmode.symm⟩⟩
    · obtain ⟨hgeneration, hat, hcurrent⟩ := h.asked request hrequest
      refine ⟨hgeneration, hat, fun hnow => ?_⟩
      obtain ⟨⟨asker, hasker, hmode', hids'⟩, hfresh⟩ := hcurrent hnow
      rw [hold] at hasker
      cases hasker
      exact ⟨⟨state, rfl, hmode.trans hmode', hids.trans hids'⟩, hfresh⟩
    · cases hother
      obtain ⟨at_, hat, hfresh, hchain⟩ := h.given hsuperseded old hold (hmine.symm.trans hisMine)
      refine ⟨at_, hat, hrev.le.trans hfresh, ?_⟩
      rw [hmode, hids]
      exact hchain
  · rename_i hnew
    have hanswered : ∀ at_, (sync.owed = false → sync.lastPresetRevision ≤ server.revision at_) →
        (sync.owed || (sync.lastSig.isSome &&
          decide (state.presetRevision ≠ sync.lastPresetRevision))) = false →
        sync.cache = emptyCache ∨ state.presetRevision ≤ server.revision at_ := by
      intro at_ hfresh howed
      simp only [Bool.or_eq_false_iff, Bool.and_eq_false_iff] at howed
      obtain ⟨howed, hsig | hrev⟩ := howed
      · left
        cases hstate : sync.state with
        | none => exact (h.blank hstate).2.2.1
        | some old =>
          rw [(h.told old hstate).2.lastSig] at hsig
          cases hsig
      · right
        rw [of_not_not (of_decide_eq_false hrev)]
        exact hfresh howed
    refine PresetSync.Remembered.syncPresets ⟨rfl, hmoment, hrevision, rfl, rfl, rfl, ?_, ?_⟩ ?_
    · rcases h.cached with hempty | ⟨at_, hat, hdocuments, hfresh⟩
      · exact Or.inl hempty
      · by_cases hempty : sync.cache = emptyCache
        · exact Or.inl hempty
        · exact Or.inr ⟨at_, hat, hdocuments, fun howed =>
            (hanswered at_ hfresh howed).resolve_left hempty⟩
    · intro request hrequest
      obtain ⟨hgeneration, hat, _⟩ := h.asked request hrequest
      exact ⟨hgeneration, hat⟩
    · intro howed hforce hmode hids hmissing
      have howed : sync.owed = true := by
        simpa only [hforce, Bool.or_false] using howed
      have hsome : sync.lastSig.isSome = true := by
        cases hstate : sync.state with
        | none =>
          rw [(h.blank hstate).2.2.2] at howed
          cases howed
        | some old =>
          rw [(h.told old hstate).2.lastSig]
          rfl
      rw [hsome, Bool.true_and, decide_eq_false_iff_not, not_not] at hforce
      exact hcareful ⟨howed, hnew, hmode, hforce, hids, hmissing⟩

theorem PresetSync.Sound.recompute_blank (h : sync.Sound server) (hblank : sync.state = none)
    (force : Bool) :
    ({ sync with forceLocalPlayback := force } : PresetSync E).recompute.Sound server := by
  have hsame : ({ sync with forceLocalPlayback := force } : PresetSync E).recompute =
      { sync with forceLocalPlayback := force } := by
    simp only [PresetSync.recompute, hblank]
  have hnone : ∀ state, sync.state ≠ some state := by simp [hblank]
  rw [hsame]
  refine ⟨h.heard, fun state hstate => absurd hstate (hnone state), h.blank, h.cached,
    fun request hrequest => ?_, fun _ state hstate => absurd hstate (hnone state)⟩
  rw [(h.blank hblank).2.1] at hrequest
  cases hrequest

theorem PresetSync.Sound.step (h : sync.Sound server) {event : SyncEvent} {next : PresetSync E}
    (hstep : sync.step server event = some next) (hsucceeds : ∀ request, event ≠ .failed request)
    (hcareful : sync.Careful event) : next.Sound server := by
  cases event with
  | moment =>
    cases hstep
    exact h.moment
  | state at_ state =>
    simp only [PresetSync.step] at hstep
    split at hstep
    · rename_i htold
      cases hstep
      exact h.recompute htold.2.1 htold.2.2 sync.forceLocalPlayback hcareful
    · cases hstep
  | override force =>
    cases hstep
    rcases Option.eq_none_or_eq_some sync.state with hblank | ⟨state, hstate⟩
    · exact h.recompute_blank hblank force
    · -- the state is the one that was told last
      have hsame : ({ sync with forceLocalPlayback := force } : PresetSync E) =
          { sync with
            state := some state
            heardAt := sync.heardAt
            forceLocalPlayback := force } := by
        rw [← hstate]
      rw [hsame]
      exact h.recompute h.heard (h.told state hstate).1 force (hcareful state hstate)
  | answered request at_ =>
    simp only [PresetSync.step] at hstep
    split at hstep
    · rename_i hanswered
      cases hstep
      exact h.answer hanswered.1 hanswered.2.1 hanswered.2.2
    · cases hstep
  | failed request => exact absurd rfl (hsucceeds request)

theorem PresetSync.Sound.run {events : List SyncEvent} :
    ∀ {sync last : PresetSync E}, sync.Sound server → sync.run server events = some last →
      (∀ request, .failed request ∉ events) → sync.CarefulRun server events →
      last.Sound server := by
  induction events with
  | nil =>
    intro sync last h hrun _ _
    cases hrun
    exact h
  | cons event rest ih =>
    intro sync last h hrun hsucceeds hcareful
    obtain ⟨hevent, hrest⟩ := hcareful
    simp only [PresetSync.run] at hrun
    split at hrun
    · rename_i next hnext
      refine ih (h.step hnext (fun request hfailed => ?_) hevent) hrun (fun request hmem => ?_)
        (hrest next hnext)
      · exact hsucceeds request (hfailed ▸ List.mem_cons_self)
      · exact hsucceeds request (List.mem_cons_of_mem event hmem)
    · cases hrun

end Steps

/-! ## The chain of an idle browser -/

/-- Where no request is outstanding and the browser is an output, the chain is current, in every run
of requests that succeed in which no event loses a refresh. -/
theorem chain_is_current (server : PresetServer E) {events : List SyncEvent} {sync : PresetSync E}
    (hrun : (initialSync E).run server events = some sync)
    (hsucceeds : ∀ request, .failed request ∉ events)
    (hcareful : (initialSync E).CarefulRun server events) {state : PresetState}
    (hstate : sync.state = some state) (hidle : sync.requests = [])
    (houtput : (state.isOutput || sync.forceLocalPlayback) = true) :
    sync.Current server state := by
  have hsound := (initialSync_sound server).run hrun hsucceeds hcareful
  refine hsound.given (fun request hrequest => ?_) state hstate ?_
  · rw [hidle] at hrequest
    cases hrequest
  · rw [(hsound.told state hstate).2.isMine]
    exact houtput

/-- Two presets of one mode, edited at every moment. -/
def editedServer : PresetServer ℕ where
  presets := fun moment _ => [⟨"rain", moment⟩, ⟨"wind", moment⟩]
  revision := id
  revision_mono := monotone_id

def rainFirst (revision : ℕ) : PresetState := ⟨some "forest", ["rain", "wind"], revision, true⟩

def windFirst (revision : ℕ) : PresetState := ⟨some "forest", ["wind", "rain"], revision, true⟩

/-- The presets are fetched, edited, and fetched again. -/
def refreshedEvents : List SyncEvent :=
  [.state 0 (rainFirst 0), .answered ⟨1, "forest", ["rain", "wind"], 0⟩ 0, .moment,
    .state 1 (rainFirst 1), .answered ⟨2, "forest", ["rain", "wind"], 1⟩ 1]

/-- They are swapped before the answer of the second fetch. -/
def swappedEvents : List SyncEvent :=
  [.state 0 (rainFirst 0), .answered ⟨1, "forest", ["rain", "wind"], 0⟩ 0, .moment,
    .state 1 (rainFirst 1), .state 1 (windFirst 1),
    .answered ⟨2, "forest", ["rain", "wind"], 1⟩ 1]

theorem chain_is_current_refreshed :
    ∃ sync, (initialSync ℕ).run editedServer refreshedEvents = some sync ∧
      sync.chain = some [⟨"rain", 1⟩, ⟨"wind", 1⟩] ∧
      sync.Current editedServer (rainFirst 1) := by
  refine ⟨_, rfl, by decide, ?_⟩
  have hrun : (initialSync ℕ).run editedServer refreshedEvents = some _ := rfl
  exact chain_is_current editedServer hrun (by simp [refreshedEvents]) (by decide) rfl rfl rfl

/-- The answer is dropped, and the chain keeps the documents from before the edit. -/
theorem chain_of_swapped :
    ∃ sync, (initialSync ℕ).run editedServer swappedEvents = some sync ∧
      (∀ request, .failed request ∉ swappedEvents) ∧ sync.state = some (windFirst 1) ∧
      sync.requests = [] ∧ sync.isMine = true ∧ sync.chain = some [⟨"wind", 0⟩, ⟨"rain", 0⟩] ∧
      ¬ sync.Current editedServer (windFirst 1) := by
  refine ⟨_, rfl, by simp [swappedEvents], rfl, rfl, rfl, by decide, ?_⟩
  rintro ⟨moment, hmoment, hrevision, hchain⟩
  have hlast : moment = 1 := Nat.le_antisymm hmoment hrevision
  subst hlast
  exact absurd hchain (by decide)

end Browser

end MusicServer
