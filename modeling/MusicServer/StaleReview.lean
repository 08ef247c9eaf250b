/-
# No stale acceptance

A review is prepared in steps of its own: the role is read, then its connection, then the
vocabulary, and only then the transaction runs.  Anything may be edited in between.  A target
is accepted only where the tables at the commit still say what its signature says.
-/
import MusicServer.TagReview
import MusicServer.Transition

namespace MusicServer

open LibraryIndex EvidenceRules EvidenceTables ReviewPlan Transition

/-! ## What a fresh target is -/

section

variable {δ : Type} (rules : EvidenceRules δ) (tables : EvidenceTables δ)

/-- The signature that a profile of the track would get now. -/
def presentSignature (voice : Option String) (analyzerId : String) (track : IndexedTrack) :
    Option String :=
  if analyzerId = modelTagAnalyzerId then do
    let role ← tables.loadRole "music_tagger"
    let connection ← tables.loadConnection role.connectionId
    let vocabulary ← tables.vocabulary
    return rules.modelTagSourceSignature track
      (rules.modelTagInferenceFingerprint role connection) (rules.vocabularyFingerprint vocabulary)
      (tables.currentModelContext rules track voice) (tables.currentSongCatalog rules track)
  else some (rules.catalogTagSourceSignature track tables.catalogRevision)

/-- The stored profile holds the tag, and its signature is the target's and the present one;
a model's tag is in the vocabulary besides. -/
structure Fresh (voice : Option String) (target : AnalysisReviewTarget) : Prop where
  profile : ∃ row moods, tables.analysisOf target.trackId target.analyzerId = some row ∧
    row.moods = some moods ∧ target.tag ∈ moods ∧ row.sourceSignature = target.sourceSignature
  signature : ∃ track, tables.loadTrack target.trackId = .ok (some track) ∧
    presentSignature rules tables voice target.analyzerId track = some target.sourceSignature
  vocabulary : target.analyzerId = modelTagAnalyzerId →
    ∃ document, tables.vocabulary = some document ∧ namesTag document target.tag = true

end

def CollisionFree {δ : Type} (rules : EvidenceRules δ) (texts : List String) : Prop :=
  ∀ text ∈ texts, ∀ other ∈ texts, rules.digest text = rules.digest other → text = other

/-! ## The world of reviews -/

/-- The tables, the voice analyzer of the process, and how far the requests in flight are. -/
structure ReviewWorld (δ : Type) where
  tables : EvidenceTables δ
  tags : ManualTags
  reviews : List ReviewRow
  voice : Option String
  roles : List ModelRoleRecord
  identities : List ModelRoleReviewIdentity
  guards : List ModelTagReviewGuard
  /-- The texts of the roles and connections that were digested so far. -/
  digested : List String

inductive ReviewAction (δ : Type) where
  /-- Other requests commit: metadata edits, analyses, vocabulary, roles, catalog evidence. -/
  | edit (tables : EvidenceTables δ) (tags : ManualTags) (reviews : List ReviewRow)
  | restart (voice : Option String)
  | readRole (role : ModelRoleRecord)
  | readConnection (role : ModelRoleRecord) (connection : ProviderConnectionRecord)
  | readVocabulary (identity : ModelRoleReviewIdentity) (document : TagVocabularyDocument)
  | review (targets : List AnalysisReviewTarget) (decision : AnalysisReviewDecision)
      (guard : Option ModelTagReviewGuard) (outcome : Except StorageError AnalysisReviewBatch)

namespace ReviewWorld

variable {δ : Type}

def reviewed (rules : EvidenceRules δ) (world : ReviewWorld δ)
    (targets : List AnalysisReviewTarget) (decision : AnalysisReviewDecision)
    (guard : Option ModelTagReviewGuard) : ReviewWorld δ × Except StorageError AnalysisReviewBatch :=
  match reviewInTransaction rules world.tables world.tags world.reviews targets decision guard with
  | .ok (tags, reviews, batch) => ({ world with tags := tags, reviews := reviews }, .ok batch)
  | .error error => (world, .error error)

def Step (rules : EvidenceRules δ) (world : ReviewWorld δ) :
    ReviewAction δ → ReviewWorld δ → Prop
  | .edit tables tags reviews, world' =>
    world' = { world with tables := tables, tags := tags, reviews := reviews }
  | .restart voice, world' =>
    world' = { world with voice := voice, roles := [], identities := [], guards := [] }
  | .readRole role, world' =>
    world.tables.loadRole "music_tagger" = some role ∧
      world' = { world with roles := role :: world.roles }
  | .readConnection role connection, world' =>
    role ∈ world.roles ∧ world.tables.loadConnection role.connectionId = some connection ∧
      world' = { world with
        identities := rules.roleReviewIdentity role connection :: world.identities
        digested := configurationText role :: rules.connectionText connection :: world.digested }
  | .readVocabulary identity document, world' =>
    identity ∈ world.identities ∧ world.tables.vocabulary = some document ∧
      world' = { world with
        guards := ⟨identity, rules.vocabularyFingerprint document, world.voice⟩ :: world.guards }
  | .review targets decision guard outcome, world' =>
    (∀ prepared ∈ guard, prepared ∈ world.guards) ∧
      (world', outcome) = world.reviewed rules targets decision guard

/-- The texts that were digested before, and those a review would digest now. -/
def texts (rules : EvidenceRules δ) (world : ReviewWorld δ) : List String :=
  world.digested ++ world.tables.roles.map configurationText ++
    world.tables.connections.map rules.connectionText

end ReviewWorld

/-- Reviews among edits, from any tables with no request in flight. -/
def reviewSystem {δ : Type} (rules : EvidenceRules δ) :
    System (ReviewWorld δ) (ReviewAction δ) where
  init world := world.roles = [] ∧ world.identities = [] ∧ world.guards = []
  step := ReviewWorld.Step rules

/-! ## What a guard remembers -/

section

variable {δ : Type} {rules : EvidenceRules δ}

/-- An identity was made from a role and a connection whose texts were digested. -/
def Identified (rules : EvidenceRules δ) (digested : List String)
    (identity : ModelRoleReviewIdentity) : Prop :=
  ∃ role connection, role.roleId = "music_tagger" ∧
    identity = rules.roleReviewIdentity role connection ∧ configurationText role ∈ digested ∧
    rules.connectionText connection ∈ digested

theorem Identified.mono {digested digested' : List String} {identity : ModelRoleReviewIdentity}
    (h : Identified rules digested identity) (hsubset : ∀ text ∈ digested, text ∈ digested') :
    Identified rules digested' identity := by
  obtain ⟨role, connection, hid, heq, hrole, hconnection⟩ := h
  exact ⟨role, connection, hid, heq, hsubset _ hrole, hsubset _ hconnection⟩

/-- What the requests in flight hold was read from tables of the past. -/
structure Prepared (rules : EvidenceRules δ) (world : ReviewWorld δ) : Prop where
  roles : ∀ role ∈ world.roles, role.roleId = "music_tagger"
  identities : ∀ identity ∈ world.identities, Identified rules world.digested identity
  guards : ∀ guard ∈ world.guards, Identified rules world.digested guard.role ∧
    guard.voiceSignature = world.voice

variable {tables : EvidenceTables δ}

theorem roleId_of_loadRole {roleId : String} {role : ModelRoleRecord}
    (h : tables.loadRole roleId = some role) : role.roleId = roleId ∧ role ∈ tables.roles := by
  unfold loadRole at h
  exact ⟨by simpa using List.find?_some h, List.mem_of_find?_eq_some h⟩

theorem mem_of_loadConnection {id : String} {connection : ProviderConnectionRecord}
    (h : tables.loadConnection id = some connection) :
    connection ∈ tables.connections := List.mem_of_find?_eq_some h

variable {guard : Option ModelTagReviewGuard} {targets : List AnalysisReviewTarget}
variable {decision : AnalysisReviewDecision} {world world' : ReviewWorld δ}

theorem reviewed_kept {outcome : Except StorageError AnalysisReviewBatch}
    (h : (world', outcome) = world.reviewed rules targets decision guard) :
    world' = { world with tags := world'.tags, reviews := world'.reviews } := by
  unfold ReviewWorld.reviewed at h
  split at h
  · cases h
    rfl
  · cases h
    rfl

theorem prepared_step {action : ReviewAction δ} (h : Prepared rules world)
    (hstep : (reviewSystem rules).step world action world') :
    Prepared rules world' := by
  cases action with
  | edit tables tags reviews =>
    cases hstep
    exact ⟨h.roles, h.identities, h.guards⟩
  | restart voice =>
    cases hstep
    exact ⟨fun _ hmem => absurd hmem List.not_mem_nil, fun _ hmem => absurd hmem List.not_mem_nil,
      fun _ hmem => absurd hmem List.not_mem_nil⟩
  | readRole role =>
    obtain ⟨hload, rfl⟩ := hstep
    refine ⟨?_, h.identities, h.guards⟩
    intro other hother
    rcases List.mem_cons.mp hother with rfl | hother
    · exact (roleId_of_loadRole hload).1
    · exact h.roles other hother
  | readConnection role connection =>
    obtain ⟨hrole, hload, rfl⟩ := hstep
    have hmore : ∀ text ∈ world.digested,
        text ∈ configurationText role :: rules.connectionText connection :: world.digested :=
      fun text htext => List.mem_cons_of_mem _ (List.mem_cons_of_mem _ htext)
    refine ⟨h.roles, ?_, ?_⟩
    · intro identity hidentity
      rcases List.mem_cons.mp hidentity with rfl | hidentity
      · exact ⟨role, connection, h.roles role hrole, rfl, List.mem_cons_self,
          List.mem_cons_of_mem _ List.mem_cons_self⟩
      · exact (h.identities identity hidentity).mono hmore
    · intro guard hguard
      obtain ⟨hidentified, hvoice⟩ := h.guards guard hguard
      exact ⟨hidentified.mono hmore, hvoice⟩
  | readVocabulary identity document =>
    obtain ⟨hidentity, _, rfl⟩ := hstep
    refine ⟨h.roles, h.identities, ?_⟩
    intro guard hguard
    rcases List.mem_cons.mp hguard with rfl | hguard
    · exact ⟨h.identities identity hidentity, rfl⟩
    · exact h.guards guard hguard
  | review targets decision guard outcome =>
    rw [reviewed_kept hstep.2]
    exact ⟨h.roles, h.identities, h.guards⟩

theorem prepared_of_reachable {world : ReviewWorld δ}
    (h : (reviewSystem rules).Reachable world) : Prepared rules world := by
  refine h.invariant ?_ fun _ _ _ hp hstep => prepared_step hp hstep
  rintro world ⟨hroles, hidentities, hguards⟩
  refine ⟨?_, ?_, ?_⟩
  · simp [hroles]
  · simp [hidentities]
  · simp [hguards]

/-! ## What a passed check says -/

/-- A vocabulary a review may use is the present one, under a role and a connection that
infer as the guard's did. -/
theorem currentReviewVocabulary_some {digested : List String} {guard : ModelTagReviewGuard}
    {document : TagVocabularyDocument} (hguard : Identified rules digested guard.role)
    (hfree : CollisionFree rules
      (digested ++ tables.roles.map configurationText ++
        tables.connections.map rules.connectionText))
    (h : currentReviewVocabulary rules tables guard = some document) :
    tables.vocabulary = some document ∧
      rules.vocabularyFingerprint document = guard.vocabularyFingerprint ∧
      ∃ role connection, tables.loadRole "music_tagger" = some role ∧
        tables.loadConnection role.connectionId = some connection ∧
        rules.modelTagInferenceFingerprint role connection = guard.role.inferenceFingerprint := by
  unfold currentReviewVocabulary at h
  obtain ⟨role, hrole, h⟩ := Option.bind_eq_some_iff.mp h
  split at h
  · cases h
  · next hconfiguration =>
    obtain ⟨connection, hconnection, h⟩ := Option.bind_eq_some_iff.mp h
    split at h
    · cases h
    · next hsame =>
      obtain ⟨vocabulary, hvocabulary, h⟩ := Option.bind_eq_some_iff.mp h
      split at h
      · next hfingerprint =>
        cases h
        refine ⟨hvocabulary, hfingerprint, role, connection, hrole, hconnection, ?_⟩
        obtain ⟨role', connection', hid', hidentity, hrole', hconnection'⟩ := hguard
        rw [hidentity] at hconfiguration hsame ⊢
        obtain ⟨hid, hstored⟩ := roleId_of_loadRole hrole
        have hmemory : ∀ text ∈ digested, text ∈ digested ++ tables.roles.map configurationText ++
            tables.connections.map rules.connectionText :=
          fun text htext => List.mem_append_left _ (List.mem_append_left _ htext)
        have htext : configurationText role = configurationText role' := by
          refine hfree _ ?_ _ (hmemory _ hrole') (not_not.mp hconfiguration)
          exact List.mem_append_left _ (List.mem_append_right _ (List.mem_map_of_mem hstored))
        have htext' : rules.connectionText connection = rules.connectionText connection' := by
          refine hfree _ ?_ _ (hmemory _ hconnection') (not_not.mp hsame)
          exact List.mem_append_right _ (List.mem_map_of_mem (mem_of_loadConnection hconnection))
        exact inferenceFingerprint_eq (hid.trans hid'.symm) htext htext'
      · cases h

variable {target : AnalysisReviewTarget}

theorem checkProfile_none {row : AnalysisRow δ} {signature : String}
    (h : checkProfile rules row target signature = .ok none) :
    signature = target.sourceSignature ∧ ∃ moods, row.moods = some moods ∧ target.tag ∈ moods := by
  unfold checkProfile at h
  split at h
  · cases h
  · next hsignature =>
    split at h
    · cases h
    · split at h
      · cases h
      · next moods hmoods =>
        split at h
        · next htag => exact ⟨not_not.mp hsignature, moods, hmoods, htag⟩
        · cases h

theorem checkAnalyzer_none {world : ReviewWorld δ} {track : IndexedTrack} {row : AnalysisRow δ}
    (hprepared : Prepared rules world) (hguard : ∀ prepared ∈ guard, prepared ∈ world.guards)
    (hfree : CollisionFree rules (world.texts rules))
    (h : checkAnalyzer rules world.tables guard track row target = .ok none) :
    presentSignature rules world.tables world.voice target.analyzerId track
        = some target.sourceSignature ∧
      (∃ moods, row.moods = some moods ∧ target.tag ∈ moods) ∧
      (target.analyzerId = modelTagAnalyzerId →
        ∃ document, world.tables.vocabulary = some document ∧
          namesTag document target.tag = true) := by
  unfold checkAnalyzer at h
  split at h
  · next hmodel =>
    split at h
    · next guard' document hdocument =>
      obtain ⟨hidentified, hvoice⟩ := hprepared.guards guard' (hguard guard' rfl)
      obtain ⟨hvocabulary, hfingerprint, role, connection, hrole, hconnection, hinference⟩ :=
        currentReviewVocabulary_some hidentified hfree hdocument
      split at h
      · cases h
      · next hnamed =>
        obtain ⟨hsignature, hmoods⟩ := checkProfile_none h
        refine ⟨?_, hmoods, fun _ => ⟨document, hvocabulary, by simpa using hnamed⟩⟩
        unfold presentSignature
        rw [if_pos hmodel, hrole, Option.bind_eq_bind, Option.bind_some, hconnection,
          Option.bind_eq_bind, Option.bind_some, hvocabulary, Option.bind_eq_bind,
          Option.bind_some, hinference, hfingerprint, ← hsignature, ← hvoice]
        rfl
    · cases h
  · next hcatalog =>
    obtain ⟨hsignature, hmoods⟩ := checkProfile_none h
    refine ⟨?_, hmoods, fun hmodel => absurd hmodel hcatalog⟩
    unfold presentSignature
    rw [if_neg hcatalog, hsignature]

theorem fresh_of_passes {world : ReviewWorld δ} (hprepared : Prepared rules world)
    (hguard : ∀ prepared ∈ guard, prepared ∈ world.guards)
    (hfree : CollisionFree rules (world.texts rules))
    (h : passes rules world.tables guard target = true) :
    Fresh rules world.tables world.voice target := by
  rw [passes_iff] at h
  unfold checkTarget at h
  obtain ⟨found, htrack, h⟩ := bind_eq_ok.mp h
  cases found with
  | none => cases h
  | some track =>
    simp only at h
    split at h
    · cases h
    · split at h
      · cases h
      · next row hrow =>
        split at h
        · cases h
        · next hsame =>
          obtain ⟨hsignature, ⟨moods, hmoods, htag⟩, hvocabulary⟩ :=
            checkAnalyzer_none hprepared hguard hfree h
          exact ⟨⟨row, moods, hrow, hmoods, htag, not_not.mp hsame⟩, ⟨track, htrack, hsignature⟩,
            hvocabulary⟩

variable {batch : AnalysisReviewBatch}

theorem reviewed_ok (h : (world', .ok batch) = world.reviewed rules targets decision guard) :
    reviewInTransaction rules world.tables world.tags world.reviews targets decision guard
        = .ok (world'.tags, world'.reviews, batch) ∧ world'.tables = world.tables := by
  unfold ReviewWorld.reviewed at h
  split at h
  · next heq =>
    cases h
    exact ⟨heq, rfl⟩
  · cases h

theorem passes_of_applied {tags tags' : ManualTags} {reviews reviews' : List ReviewRow}
    (h : reviewInTransaction rules tables tags reviews targets decision guard
      = .ok (tags', reviews', batch))
    (htarget : target ∈ batch.applied.map AnalysisReviewOutcome.target) :
    target ∈ targets ∧ passes rules tables guard target = true := by
  obtain ⟨_, _, _, happlied, _⟩ := reviewInTransaction_ok h
  rw [happlied, List.map_map, List.mem_map] at htarget
  obtain ⟨target', haccepted, rfl⟩ := htarget
  exact List.mem_filter.mp (mem_accepted.mp haccepted).1

theorem applied_of_added {tags tags' : ManualTags} {reviews reviews' : List ReviewRow}
    {track : TrackId} {tag : String}
    (h : reviewInTransaction rules tables tags reviews targets decision guard
      = .ok (tags', reviews', batch)) (hnew : (track, tag) ∈ tags') (hold : (track, tag) ∉ tags) :
    decision = .accepted ∧ ∃ target ∈ batch.applied.map AnalysisReviewOutcome.target,
      (track, tag) = (target.trackId, target.tag) := by
  obtain ⟨htags, _, _, happlied, _⟩ := reviewInTransaction_ok h
  rw [htags, Finset.mem_union, List.mem_toFinset] at hnew
  have hinserted := hnew.resolve_left hold
  unfold reviewPlan planDecisions at hinserted
  by_cases hdecision : decision = .accepted
  · subst hdecision
    refine ⟨rfl, ?_⟩
    obtain ⟨_, target, htarget, heq⟩ := ((mem_inserted _ _ _).1 track tag).mp hinserted
    refine ⟨target, ?_, heq⟩
    rw [happlied, List.map_map]
    exact List.mem_map.mpr ⟨target, htarget, rfl⟩
  · rw [inserted_of_not_accepted hdecision] at hinserted
    exact absurd hinserted List.not_mem_nil

/-- A review, prepared and committed among any edits, adds a manual tag only for a target that
is fresh at the commit.  A target that is not is reported and changes nothing: without it the
review does the same.  Every target is applied or reported, as often as it was listed. -/
theorem no_stale_acceptance (rules : EvidenceRules δ) {world world' : ReviewWorld δ}
    (hreachable : (reviewSystem rules).Reachable world) {targets : List AnalysisReviewTarget}
    {decision : AnalysisReviewDecision} {guard : Option ModelTagReviewGuard}
    {batch : AnalysisReviewBatch} (hfree : CollisionFree rules (world.texts rules))
    (hstep : (reviewSystem rules).step world (.review targets decision guard (.ok batch)) world') :
    (∀ track tag, (track, tag) ∈ world'.tags → (track, tag) ∉ world.tags →
      decision = .accepted ∧ ∃ target ∈ targets, (track, tag) = (target.trackId, target.tag) ∧
        Fresh rules world.tables world.voice target) ∧
    (∀ target ∈ batch.applied.map AnalysisReviewOutcome.target,
      Fresh rules world.tables world.voice target) ∧
    (∀ target ∈ targets, ¬ Fresh rules world.tables world.voice target →
      target ∈ batch.failures.map AnalysisReviewFailure.target ∧
      ∃ batch', (reviewSystem rules).step world
          (.review (targets.filter (· ≠ target)) decision guard (.ok batch')) world' ∧
        batch'.applied = batch.applied) ∧
    (batch.applied.map AnalysisReviewOutcome.target ++
      batch.failures.map AnalysisReviewFailure.target).Perm targets ∧
    world'.tables = world.tables := by
  obtain ⟨hguard, hreviewed⟩ := hstep
  obtain ⟨hresult, htables⟩ := reviewed_ok hreviewed
  have hprepared := prepared_of_reachable hreachable
  have hfresh : ∀ target ∈ batch.applied.map AnalysisReviewOutcome.target,
      Fresh rules world.tables world.voice target := fun target htarget =>
    fresh_of_passes hprepared hguard hfree (passes_of_applied hresult htarget).2
  have hperm := applied_failures_perm hresult
  refine ⟨?_, hfresh, ?_, hperm, htables⟩
  · intro track tag hnew hold
    obtain ⟨hdecision, target, htarget, heq⟩ := applied_of_added hresult hnew hold
    exact ⟨hdecision, target, (passes_of_applied hresult htarget).1, heq, hfresh target htarget⟩
  · intro target htarget hstale
    constructor
    · have hlisted := hperm.mem_iff.mpr htarget
      rcases List.mem_append.mp hlisted with happlied | hfailed
      · exact absurd (hfresh target happlied) hstale
      · exact hfailed
    · have hfails : passes rules world.tables guard target = false := by
        by_contra hpasses
        rw [Bool.not_eq_false] at hpasses
        exact hstale (fresh_of_passes hprepared hguard hfree hpasses)
      obtain ⟨batch', hwithout, happlied⟩ := reviewInTransaction_without hresult hfails
      refine ⟨batch', ⟨hguard, ?_⟩, happlied⟩
      unfold ReviewWorld.reviewed
      rw [hwithout]
      exact Prod.ext (reviewed_kept hreviewed) rfl

end

/-! ## A review among edits -/

/-- Rules whose digests tell all texts apart. -/
def tellingRules : EvidenceRules Unit where
  digest text := "#" ++ text
  encode := rendered
  secondsBits _ := 0
  taggingPrototype := .string "prototype"
  jevInferenceIdentity := .null
  songCatalogEvidence _ _ _ := none
  validTagDecisions _ _ _ := true
  validExplanation _ := true

theorem plain_home : Plain "home" := by
  unfold Plain
  decide

def taggerRole : ModelRoleRecord :=
  ⟨"music_tagger", "home", "model", true, 30, 1024, "low", plain_home⟩

def taggerConnection : ProviderConnectionRecord :=
  ⟨"home", "home", "home", "sealed", "nonce", false, [], plain_home, plain_home, plain_home⟩

def moodVocabulary : TagVocabularyDocument :=
  ⟨"1", [⟨"mood", "Mood", "", [⟨"calm", "calm", "", [], []⟩]⟩]⟩

def titledTables (title : String) : EvidenceTables Unit where
  index := { LibraryIndex.empty with
    tracks := ⟨[⟨⟨1, Int.one_pos⟩, "a.mp3".toList,
      ⟨title, "", "", "", "", "", "", none, none, none, "", none⟩, 0, "", "", 1000, 1, 1⟩],
      List.nodup_singleton _, List.nodup_singleton _⟩ }
  analyses := []
  contexts := []
  enrichments := []
  catalogRevision := 0
  sourcePolicies := []
  vocabulary := some moodVocabulary
  roles := [taggerRole]
  connections := [taggerConnection]

def signatureOf (tables : EvidenceTables Unit) (analyzerId : String) : String :=
  match tables.loadTrack ⟨1, Int.one_pos⟩ with
  | .ok (some track) => (presentSignature tellingRules tables none analyzerId track).getD ""
  | _ => ""

def calmTarget (title analyzerId : String) : AnalysisReviewTarget :=
  ⟨⟨1, Int.one_pos⟩, "calm", analyzerId, signatureOf (titledTables title) analyzerId⟩

def calmProfile (title analyzerId : String) : AnalysisRow Unit where
  trackId := ⟨1, Int.one_pos⟩
  analyzerId := analyzerId
  sourceSignature := signatureOf (titledTables title) analyzerId
  moods := some ["calm"]
  evidence := some ["quiet"]
  metrics := some [("contract", .string modelTaggerOutputContract)]
  decisions := some []

def analysedTables (title : String) : EvidenceTables Unit :=
  { titledTables title with
    analyses := [calmProfile title catalogTagAnalyzerId, calmProfile title modelTagAnalyzerId] }

def untitledWorld : ReviewWorld Unit := ⟨analysedTables "", ∅, [], none, [], [], [], []⟩

def taggerGuard : ModelTagReviewGuard :=
  ⟨tellingRules.roleReviewIdentity taggerRole taggerConnection,
    tellingRules.vocabularyFingerprint moodVocabulary, none⟩

/-- A review was prepared; then the track got a title and was analysed again. -/
def titledWorld : ReviewWorld Unit where
  tables := analysedTables "Dawn"
  tags := ∅
  reviews := []
  voice := none
  roles := [taggerRole]
  identities := [taggerGuard.role]
  guards := [taggerGuard]
  digested := [configurationText taggerRole, tellingRules.connectionText taggerConnection]

theorem titledWorld_reachable : (reviewSystem tellingRules).Reachable titledWorld := by
  refine .step (s := ({ titledWorld with tables := analysedTables "" } : ReviewWorld Unit))
    (a := .edit (analysedTables "Dawn") ∅ []) ?_ rfl
  refine .step
    (s := ({ titledWorld with tables := analysedTables "", guards := [] } : ReviewWorld Unit))
    (a := .readVocabulary taggerGuard.role moodVocabulary) ?_ ⟨List.mem_singleton_self _, rfl, rfl⟩
  refine .step (s := ({ untitledWorld with roles := [taggerRole] } : ReviewWorld Unit))
    (a := .readConnection taggerRole taggerConnection) ?_ ⟨List.mem_singleton_self _, rfl, rfl⟩
  exact .step (s := untitledWorld) (a := .readRole taggerRole) (.init ⟨rfl, rfl, rfl⟩) ⟨rfl, rfl⟩

def titledTargets : List AnalysisReviewTarget :=
  [calmTarget "" catalogTagAnalyzerId, calmTarget "Dawn" modelTagAnalyzerId]

/-- The suggestion that is out of date is reported, the other one accepted. -/
def titledBatch : AnalysisReviewBatch where
  requestedItems := 2
  applied := [⟨calmTarget "Dawn" modelTagAnalyzerId, .accepted⟩]
  failures := [⟨calmTarget "" catalogTagAnalyzerId, .stale,
    "Analysis changed; refresh before reviewing this tag"⟩]

theorem no_stale_acceptance_suggestedLibrary :
    Fresh tellingRules titledWorld.tables none (calmTarget "Dawn" modelTagAnalyzerId) ∧
      ∃ world', (reviewSystem tellingRules).step titledWorld
          (.review titledTargets .accepted taggerGuard (.ok titledBatch)) world' ∧
        (⟨1, Int.one_pos⟩, "calm") ∈ world'.tags ∧ world'.tables = titledWorld.tables := by
  have hresult : (titledWorld.reviewed tellingRules titledTargets .accepted taggerGuard).2 =
      .ok titledBatch := by
    decide +kernel
  have hstep : (reviewSystem tellingRules).step titledWorld
      (.review titledTargets .accepted taggerGuard (.ok titledBatch))
      (titledWorld.reviewed tellingRules titledTargets .accepted taggerGuard).1 := by
    refine ⟨fun prepared hprepared => ?_, ?_⟩
    · rw [← Option.mem_some.mp hprepared]
      exact List.mem_singleton_self _
    · rw [← hresult]
  have hfree : CollisionFree tellingRules (titledWorld.texts tellingRules) := by
    intro text _ other _ heq
    exact (String.append_right_inj "#").mp heq
  obtain ⟨-, hfresh, -, -, htables⟩ :=
    no_stale_acceptance tellingRules titledWorld_reachable hfree hstep
  exact ⟨hfresh _ List.mem_cons_self, _, hstep, by decide +kernel, htables⟩

end MusicServer
