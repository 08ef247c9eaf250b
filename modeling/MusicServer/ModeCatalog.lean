/-
# The mode catalog and its coordinator

`modes.rs`: the documents of a mode, what playback has to know of them, and the
coordinator that publishes a catalog.  A publication goes to the catalog sink first, and
only what the sink accepted becomes the snapshot that requests are resolved against.
-/
import MusicServer.LiveSession

namespace MusicServer

/-! ## Documents -/

/-- A JSON value a document carries along, by its text. -/
abbrev Value := String

structure SoundboardItemDocument where
  file : String
  name : String
  deriving DecidableEq

structure SoundboardCategoryDocument where
  items : List SoundboardItemDocument
  deriving DecidableEq

structure SoundboardDocument where
  categories : List SoundboardCategoryDocument
  deriving DecidableEq

def SoundboardDocument.items (soundboard : SoundboardDocument) : List SoundboardItemDocument :=
  soundboard.categories.flatMap (·.items)

structure CueSfxDocument where
  soundboard : String
  item : String
  volume : Float64
  deriving DecidableEq

structure CueLoopDocument where
  soundboard : String
  item : String
  intervalSeconds : Float64
  volume : Float64
  deriving DecidableEq

structure CueDocument where
  preset : Option String
  playlist : Option String
  startIndex : ℕ
  startMs : ℕ
  sfx : List CueSfxDocument
  loops : List CueLoopDocument
  deriving DecidableEq

structure EffectDocument where
  effectType : String
  parameters : BTreeMap String Value
  deriving DecidableEq

structure PresetDocument where
  id : Option String
  name : String
  description : Option String
  effects : List EffectDocument
  crossfadeMs : Option ℕ
  extra : BTreeMap String Value
  deriving DecidableEq

structure ModeDocument where
  multipleOutputs : Bool
  deriving DecidableEq

structure ModeBundle where
  manifest : ModeDocument
  soundboards : BTreeMap String SoundboardDocument
  cues : BTreeMap String CueDocument
  presets : BTreeMap String PresetDocument
  deriving DecidableEq

structure ModeCatalog where
  generation : ℕ
  modes : BTreeMap String ModeBundle
  deriving DecidableEq

def ModeBundle.soundboardItem (mode : ModeBundle) (soundboardId itemPath : String) :
    Option SoundboardItemDocument :=
  mode.soundboards[soundboardId]?.bind fun soundboard =>
    soundboard.items.find? (·.file == itemPath)

/-! ## What playback knows of a mode -/

def ModeBundle.playbackReferences (mode : ModeBundle) : CatalogMode where
  soundboardItems := mode.soundboards.map fun _ soundboard =>
    .ofList (soundboard.items.map (·.file))
  cueIds := .ofList mode.cues.keys
  presetIds := .ofList mode.presets.keys
  multipleOutputs := mode.manifest.multipleOutputs

def playbackReferences (modes : BTreeMap String ModeBundle) : BTreeMap String CatalogMode :=
  modes.map fun _ mode => mode.playbackReferences

/-- The presets a new catalog adds, removes or edits. -/
def changedPresets (current : Option ModeCatalog) (next : BTreeMap String ModeBundle) :
    List ModePresetKey :=
  match current with
  | none => []
  | some current =>
    let modeIds : BTreeSet String := .ofList (current.modes.keys ++ next.keys)
    modeIds.toList.flatMap fun modeId =>
      let presets := fun (modes : BTreeMap String ModeBundle) =>
        (modes[modeId]?.map (·.presets)).getD ∅
      let presetIds : BTreeSet String :=
        .ofList ((presets current.modes).keys ++ (presets next).keys)
      (presetIds.toList.filter fun presetId =>
        (presets current.modes)[presetId]? != (presets next)[presetId]?).map
        fun presetId => ⟨modeId, presetId⟩

/-! ## The coordinator -/

/-- The coordinator: its snapshot, and a catalog the sink accepted that is not announced
yet.  A sink that refuses a catalog stops it. -/
structure ModeCoordinator where
  current : Option ModeCatalog
  accepted : Option ModeCatalog
  stopped : Bool
  deriving DecidableEq

def ModeCoordinator.default : ModeCoordinator := ⟨none, none, false⟩

/-- The documents behind the publication the sink accepted last. -/
def ModeCoordinator.documents (coordinator : ModeCoordinator) : Option ModeCatalog :=
  coordinator.accepted.or coordinator.current

/-- The generation of an optional catalog, zero before the first. -/
def catalogGeneration (catalog : Option ModeCatalog) : ℕ := (catalog.map (·.generation)).getD 0

def ModeCoordinator.next (coordinator : ModeCoordinator) (modes : BTreeMap String ModeBundle) :
    Option ModeCatalog :=
  (checkedIncrement (catalogGeneration coordinator.current)).map fun generation =>
    ⟨generation, modes⟩

def ModeCoordinator.publication (coordinator : ModeCoordinator) (next : ModeCatalog) :
    ModeCatalogPublication where
  generation := next.generation
  modes := playbackReferences next.modes
  changedPresets := changedPresets coordinator.current next.modes

/-- `replace_mode_catalog` of the owner, with its outcome. -/
def World.replaceModeCatalog {Text : Type} (codec : JsonCodec Text) (w : World Text)
    (publication : ModeCatalogPublication) (draw : Draw) :
    World Text × Except PlaybackActorError PlaybackCommandResult :=
  w.replaceCatalog codec
    { w.actor.catalog with
      generation := { w.actor.catalog.generation with modes := publication.generation }
      modes := some publication.modes }
    (activePresetContentChanged w.actor.state publication) draw

/-- Publish some documents to the owner as the sink; the owner is given back where it
survives. -/
def ModeCoordinator.publish {Text : Type} (codec : JsonCodec Text)
    (coordinator : ModeCoordinator) (w : World Text) (modes : BTreeMap String ModeBundle)
    (draw : Draw) : Option (ModeCoordinator × World Text) :=
  if coordinator.stopped ∨ coordinator.accepted.isSome then none
  else
    match coordinator.next modes with
    | none => some ({ coordinator with stopped := true }, w)
    | some next =>
      match w.replaceModeCatalog codec (coordinator.publication next) draw with
      | (w, .ok _) => some ({ coordinator with accepted := some next }, w)
      | (w, .error error) =>
        if isFatal error then none else some ({ coordinator with stopped := true }, w)

/-- The accepted catalog becomes the snapshot. -/
def ModeCoordinator.announce (coordinator : ModeCoordinator) : Option ModeCoordinator :=
  coordinator.accepted.map fun next => { coordinator with current := some next, accepted := none }

/-! ## What the sink holds -/

/-- A catalog the owner takes on without an error is the one it was given, and one it
refuses leaves the catalog it had. -/
theorem replaceCatalog_catalog {Text : Type} {codec : JsonCodec Text} {w w' : World Text}
    {catalog : CatalogSnapshot} {presets : Bool} {draw : Draw}
    {outcome : Except PlaybackActorError PlaybackCommandResult}
    (h : w.replaceCatalog codec catalog presets draw = (w', outcome)) :
    w'.actor.catalog =
      match outcome with
      | .ok _ => catalog
      | .error _ => w.actor.catalog := by
  unfold World.replaceCatalog at h
  split at h
  · cases h
    rfl
  split at h
  · next hsame =>
    cases h
    exact hsame.1.symm
  split at h
  · cases h
    rfl
  split at h
  · cases h
    rfl
  split at h
  · cases h
    rfl
  split at h
  · cases h
    rfl
  split at h
  · next hpersist =>
    have hsame := (congrArg (·.1.actor.catalog) hpersist).symm.trans
      (World.sameSession_persistCandidate codec w _ _ draw.store).catalog
    cases h
    exact hsame
  · cases h
    rfl

theorem replaceModeCatalog_accepted {Text : Type} {codec : JsonCodec Text} {w w' : World Text}
    {publication : ModeCatalogPublication} {draw : Draw} {result : PlaybackCommandResult}
    (h : w.replaceModeCatalog codec publication draw = (w', .ok result)) :
    w'.actor.catalog.generation.modes = publication.generation ∧
      w'.actor.catalog.modes = some publication.modes := by
  rw [show w'.actor.catalog = _ from replaceCatalog_catalog h]
  exact ⟨rfl, rfl⟩

theorem replaceModeCatalog_refused {Text : Type} {codec : JsonCodec Text} {w w' : World Text}
    {publication : ModeCatalogPublication} {draw : Draw} {error : PlaybackActorError}
    (h : w.replaceModeCatalog codec publication draw = (w', .error error)) :
    w'.actor.catalog = w.actor.catalog :=
  replaceCatalog_catalog h

end MusicServer
