/-
# Browsing the catalog

`cleanup_enrichment.rs`: the pages of the releases of a recording, and the tracks of a release.
A list that is called complete is complete.

* `browsedRecording_complete`: pages of one order that reach the count hold every entry;
* `parseReleaseDetail_complete`: as many slots as declared tracks are those tracks.
-/
import MusicServer.EditionReview
import MusicServer.SongEvidence

namespace MusicServer.Browsing

open Enrichment LibraryIndex

def maxCatalogTextBytes : ℕ := 512

def maxReleases : ℕ := 100

def maxMedia : ℕ := 100

def maxTracksPerMedium : ℕ := 1000

/-! ## Values of a payload -/

def textAt (value : Json) (key : String) : Option String := (value.get key).bind Json.asString

def arrayAt (value : Json) (key : String) : Option (List Json) := (value.get key).bind Json.asArray

def boundedCatalogText (value : String) : Option String :=
  let value := trim value
  if value ≠ "" ∧ value.utf8ByteSize ≤ maxCatalogTextBytes ∧ ¬ value.toList.any isControl then
    some value
  else none

def isHexDigit (c : Char) : Bool :=
  c.isDigit || ('a' ≤ c && c ≤ 'f') || ('A' ≤ c && c ≤ 'F')

def parseMbid (value : Json) : Option String :=
  value.asString.bind fun text =>
    let chars := text.toList
    if text.utf8ByteSize = 36 ∧ chars.zipIdx.all (fun entry =>
        if entry.2 ∈ [8, 13, 18, 23] then entry.1 = '-' else isHexDigit entry.1) then
      some (String.ofList (chars.map Char.toLower))
    else none

def parseNumber (value : Option Json) : Option ℕ :=
  value.bind fun value =>
    match value.asNatural with
    | some number => if number < 2 ^ 32 then some number else none
    | none => value.asString.bind fun text => parseU32 text.toList

def renderCredits (rendered : String) : List Json → String
  | [] => trim rendered
  | credit :: rest =>
    match textAt credit "name" with
    | none => renderCredits rendered rest
    | some name =>
      let rendered := rendered ++ name ++ (textAt credit "joinphrase").getD ""
      if maxCatalogTextBytes < rendered.utf8ByteSize then "" else renderCredits rendered rest

def artistCredit (value : Json) : String := renderCredits "" (value.asArray.getD [])

def parseArtistCredit (credit : Json) : Option ArtistCredit := do
  let join ← match credit.get "joinphrase" with
    | none => some ""
    | some value => value.asString
  if 64 < join.utf8ByteSize ∨ join.toList.any isControl then none
  else
    let artist ← credit.get "artist"
    let id ← (artist.get "id").bind parseMbid
    let name ← (textAt credit "name").bind boundedCatalogText
    return ⟨id, name, join⟩

def parseArtistCredits (value : Option Json) : List ArtistCredit :=
  match (value.bind Json.asArray).filter fun items => items ≠ [] ∧ items.length ≤ 8 with
  | none => []
  | some credits => (credits.mapM parseArtistCredit).getD []

/-! ## The releases of a recording -/

def parseRelease (release : Json) : Option ReleaseSummary := do
  let id ← (release.get "id").bind parseMbid
  let title ← (textAt release "title").bind boundedCatalogText
  return ⟨id, title, (textAt release "status").bind boundedCatalogText⟩

def parseReleases (value : Option Json) : List ReleaseSummary :=
  (((value.bind Json.asArray).getD []).take maxReleases).filterMap parseRelease

def validateReleasePage (value : Json) : Except CatalogError Unit :=
  match arrayAt value "releases", (value.get "release-count").bind Json.asNatural with
  | some raw, some count =>
    if 25 < raw.length ∨ count < raw.length ∨
        (parseReleases (value.get "releases")).length ≠ raw.length ∨
        (.ofList (raw.filterMap fun release => textAt release "id") : BTreeSet String).size ≠
          raw.length then
      .error .invalidResponse
    else .ok ()
  | _, _ => .error .invalidResponse

-- the answer of the catalog, or of the cache, to a limit and an offset
variable (fetch : ℕ → ℕ → Except CatalogError Json)

def releasePage (limit offset : ℕ) : Except CatalogError Json :=
  match fetch limit offset with
  | .error error => .error error
  | .ok value =>
    match validateReleasePage value with
    | .error .invalidResponse => .error (.musicBrainzFailure .invalidPayload)
    | .error other => .error other
    | .ok () => .ok value

/-- What browsing has found, and why it stopped early. -/
structure Browsed where
  releases : BTreeMap String ReleaseSummary
  complete : Bool
  note : Option String

def browsingNote : String :=
  "Release browsing was incomplete; retrieved editions remain alternatives and no missing " ++
    "edition is treated as absent from the catalog."

def insertReleases (releases : BTreeMap String ReleaseSummary) (found : List ReleaseSummary) :
    BTreeMap String ReleaseSummary :=
  found.foldl (fun releases release => releases.insert release.id release) releases

/-- The pages from an offset on; each that goes on has moved it. -/
def browseReleases (offset : ℕ) (releases : BTreeMap String ReleaseSummary) : Browsed :=
  if offset < maxReleases then
    match releasePage fetch (min (maxReleases - offset) 25) offset with
    | .error error => ⟨releases, false, some (error.annotate browsingNote)⟩
    | .ok page =>
      match arrayAt page "releases" with
      | none => ⟨releases, false, none⟩
      | some raw =>
        let releases := insertReleases releases (parseReleases (some (.array raw)))
        match (page.get "release-count").bind Json.asNatural with
        | none => ⟨releases, false, none⟩
        | some count =>
          if count ≤ offset + raw.length then ⟨releases, true, none⟩
          else if raw = [] then ⟨releases, false, none⟩
          else browseReleases (offset + raw.length) releases
  else ⟨releases, false, none⟩
termination_by maxReleases - offset
decreasing_by
  have hraw : 0 < raw.length := List.length_pos_iff.mpr ‹_›
  omega

/-- `HttpCatalogConnector::recording`, after the recording itself was looked up. -/
def browsedRecording (recording : Recording) : Recording :=
  let browsed := browseReleases fetch 0 (insertReleases ∅ recording.releases)
  { recording with
    releases := browsed.releases.toList.map Prod.snd
    releasesComplete := browsed.complete
    lookupNotes := recording.lookupNotes ++ browsed.note.toList }

/-- The answers are front parts of the slices of one list, with its length. -/
def AnswersFrom (catalog : List Json) : Prop :=
  ∀ limit offset page, fetch limit offset = .ok page →
    (page.get "release-count").bind Json.asNatural = some catalog.length ∧
    ∃ raw, arrayAt page "releases" = some raw ∧ raw <+: (catalog.drop offset).take limit ∧
      (raw = [] → (catalog.drop offset).take limit = [])

theorem map_some_filterMap {α β : Type} {f : α → Option β} {l : List α}
    (h : (l.filterMap f).length = l.length) : (l.filterMap f).map some = l.map f := by
  induction l with
  | nil => rfl
  | cons a rest ih =>
    cases ha : f a with
    | none =>
      rw [List.filterMap_cons_none ha, List.length_cons] at h
      have := List.length_filterMap_le f rest
      omega
    | some b =>
      rw [List.filterMap_cons_some ha, List.length_cons, List.length_cons,
        Nat.add_right_cancel_iff] at h
      rw [List.filterMap_cons_some ha, List.map_cons, List.map_cons, ih h, ha]

variable {fetch}

theorem mem_insertReleases {releases : BTreeMap String ReleaseSummary}
    {found : List ReleaseSummary} {id : String} :
    id ∈ insertReleases releases found ↔
      id ∈ releases ∨ ∃ release : ReleaseSummary, release ∈ found ∧ release.id = id := by
  induction found generalizing releases with
  | nil => simp [insertReleases]
  | cons release rest ih =>
    rw [insertReleases, List.foldl_cons]
    have hrest := @ih (releases.insert release.id release)
    rw [insertReleases] at hrest
    rw [hrest, Std.ExtTreeMap.mem_insert, Std.compare_eq_iff_eq]
    simp only [List.mem_cons, exists_eq_or_imp]
    tauto

/-- Every value of a map is at the id it carries. -/
def Indexed (releases : BTreeMap String ReleaseSummary) : Prop :=
  ∀ (id : String) (release : ReleaseSummary), releases[id]? = some release → release.id = id

theorem indexed_insertReleases {releases : BTreeMap String ReleaseSummary}
    (h : Indexed releases) (found : List ReleaseSummary) :
    Indexed (insertReleases releases found) := by
  induction found generalizing releases with
  | nil => exact h
  | cons release rest ih =>
    refine ih fun id other hother => ?_
    rw [Std.ExtTreeMap.getElem?_insert] at hother
    split at hother
    · next heq =>
      cases hother
      exact Std.compare_eq_iff_eq.mp heq
    · exact h id other hother

theorem releasePage_ok {limit offset : ℕ} {page : Json} {raw : List Json}
    (h : releasePage fetch limit offset = .ok page) (hraw : arrayAt page "releases" = some raw) :
    fetch limit offset = .ok page ∧
      ∀ entry ∈ raw, ∃ release : ReleaseSummary, release ∈ parseReleases (some (.array raw)) ∧
        (entry.get "id").bind parseMbid = some release.id := by
  unfold releasePage at h
  split at h
  · cases h
  · next value hfetch =>
    have hvalid : value = page ∧ validateReleasePage value = .ok () := by
      split at h
      · cases h
      · cases h
      · next hok => exact ⟨Except.ok.inj h, hok⟩
    obtain ⟨rfl, hok⟩ := hvalid
    refine ⟨hfetch, fun entry hentry => ?_⟩
    unfold validateReleasePage at hok
    rw [hraw] at hok
    split at hok
    · next count hraw' hcount =>
      cases hraw'
      split at hok
      · cases hok
      · next hchecks =>
        simp only [not_or, Decidable.not_not] at hchecks
        obtain ⟨hshort, -, hparsed, -⟩ := hchecks
        have hall : (parseReleases (some (.array raw))).map some = raw.map parseRelease := by
          have htake : raw.take maxReleases = raw := List.take_of_length_le (by
            unfold maxReleases
            omega)
          have hsame : parseReleases (value.get "releases") = raw.filterMap parseRelease := by
            unfold parseReleases
            rw [show (value.get "releases").bind Json.asArray = some raw from hraw,
              Option.getD_some, htake]
          have hagain : parseReleases (some (.array raw)) = raw.filterMap parseRelease := by
            unfold parseReleases
            rw [show (some (Json.array raw)).bind Json.asArray = some raw from rfl,
              Option.getD_some, htake]
          rw [hsame] at hparsed
          rw [hagain, map_some_filterMap hparsed]
        obtain ⟨release, hrelease, hparse⟩ :
            ∃ release ∈ parseReleases (some (.array raw)), some release = parseRelease entry := by
          have hmem := List.mem_map_of_mem (f := parseRelease) hentry
          rw [← hall] at hmem
          exact List.mem_map.mp hmem
        refine ⟨release, hrelease, ?_⟩
        unfold parseRelease at hparse
        cases hid : (entry.get "id").bind parseMbid with
        | none =>
          rw [hid] at hparse
          cases hparse
        | some id =>
          rw [hid] at hparse
          cases htitle : (textAt entry "title").bind boundedCatalogText with
          | none =>
            rw [htitle] at hparse
            cases hparse
          | some title =>
            rw [htitle] at hparse
            cases hparse
            rfl
    · cases hok

theorem releasePage_of_valid {limit offset : ℕ} {page : Json}
    (hfetch : fetch limit offset = .ok page)
    (hvalid : validateReleasePage page = .ok ()) : releasePage fetch limit offset = .ok page := by
  rw [releasePage, hfetch]
  simp only [hvalid]

/-- The ids of the entries before an offset are among the releases. -/
def Known (catalog : List Json) (offset : ℕ) (releases : BTreeMap String ReleaseSummary) : Prop :=
  ∀ entry ∈ catalog.take offset, ∃ id ∈ releases, (entry.get "id").bind parseMbid = some id

theorem Known.page {catalog : List Json} {offset limit : ℕ} {page : Json} {raw : List Json}
    {releases : BTreeMap String ReleaseSummary} (hknown : Known catalog offset releases)
    (hanswers : AnswersFrom fetch catalog) (hpage : releasePage fetch limit offset = .ok page)
    (hraw : arrayAt page "releases" = some raw) :
    Known catalog (offset + raw.length)
      (insertReleases releases (parseReleases (some (.array raw)))) := by
  obtain ⟨hfetch, hparsed⟩ := releasePage_ok hpage hraw
  obtain ⟨-, raw', hraw', hfront, -⟩ := hanswers limit offset page hfetch
  rw [hraw] at hraw'
  cases hraw'
  -- a front part of a slice is the next part of the list
  have hnext : (catalog.drop offset).take raw.length = raw :=
    (List.prefix_iff_eq_take.mp (hfront.trans (List.take_prefix _ _))).symm
  intro entry hentry
  rw [List.take_add, hnext, List.mem_append] at hentry
  rcases hentry with hentry | hentry
  · obtain ⟨id, hid, hparse⟩ := hknown entry hentry
    exact ⟨id, mem_insertReleases.mpr (.inl hid), hparse⟩
  · obtain ⟨release, hrelease, hparse⟩ := hparsed entry hentry
    exact ⟨release.id, mem_insertReleases.mpr (.inr ⟨release, hrelease, rfl⟩), hparse⟩

theorem browseReleases_known {catalog : List Json} (hanswers : AnswersFrom fetch catalog)
    {offset : ℕ} {releases : BTreeMap String ReleaseSummary} (hindexed : Indexed releases)
    (hknown : Known catalog offset releases) :
    Indexed (browseReleases fetch offset releases).releases ∧
      ((browseReleases fetch offset releases).complete = true →
        Known catalog catalog.length (browseReleases fetch offset releases).releases) := by
  fun_induction browseReleases fetch offset releases with
  | case1 | case2 | case7 => exact ⟨hindexed, fun h => by cases h⟩
  | case3 | case5 => exact ⟨indexed_insertReleases hindexed _, fun h => by cases h⟩
  | case4 offset releases hoffset page hpage raw hraw releases' count hcount hend =>
    refine ⟨indexed_insertReleases hindexed _, fun _ => ?_⟩
    have hlast := hknown.page hanswers hpage hraw
    obtain ⟨hlength, -⟩ := hanswers _ _ _ (releasePage_ok hpage hraw).1
    rw [hcount] at hlength
    cases hlength
    unfold Known at hlast ⊢
    rw [List.take_of_length_le hend] at hlast
    rw [List.take_length]
    exact hlast
  | case6 offset releases hoffset page hpage raw hraw releases' count hcount hmore hne ih =>
    exact ih (indexed_insertReleases hindexed _) (hknown.page hanswers hpage hraw)

theorem browsedRecording_complete {catalog : List Json} (hanswers : AnswersFrom fetch catalog)
    (recording : Recording) (h : (browsedRecording fetch recording).releasesComplete = true) :
    ∀ entry ∈ catalog, ∃ release : ReleaseSummary,
      release ∈ (browsedRecording fetch recording).releases ∧
        (entry.get "id").bind parseMbid = some release.id := by
  have hempty : Indexed ∅ := fun _ _ h => by
    rw [Std.ExtTreeMap.getElem?_empty] at h
    cases h
  obtain ⟨hindexed, hall⟩ := @browseReleases_known _ _ hanswers 0 _
    (indexed_insertReleases hempty recording.releases) fun _ hentry => by cases hentry
  intro entry hentry
  obtain ⟨id, hid, hparse⟩ := hall h entry (by rw [List.take_length]; exact hentry)
  obtain ⟨release, hrelease⟩ :=
    Option.isSome_iff_exists.mp (Std.ExtTreeMap.mem_iff_isSome_getElem?.mp hid)
  refine ⟨release, ?_, ?_⟩
  · exact List.mem_map.mpr ⟨(id, release),
      Std.ExtTreeMap.mem_toList_iff_getElem?_eq_some.mpr hrelease, rfl⟩
  · rw [hparse, hindexed id release hrelease]

/-! ## The tracks of a release -/

structure ReleaseDetail where
  disambiguation : String
  formats : List String
  labels : List String
  tracklistComplete : Bool
  id : String
  title : String
  artist : String
  artistCredits : List ArtistCredit
  date : Option String
  originalReleaseDate : Option String
  releaseGroupId : Option String
  trackNo : Option ℕ
  discNo : Option ℕ
  country : Option String
  barcode : Option String
  catalogNumbers : List String
  slots : List Album.ReleaseSlot

/-- `track.get(key).or_else(|| recording.get(key))`. -/
def trackField (track recording : Json) (key : String) : Option Json :=
  (track.get key).or (recording.get key)

def releaseSlot (medium track : Json) : Option Album.ReleaseSlot := do
  let recording ← track.get "recording"
  let id ← (track.get "id").bind parseMbid
  let recordingId ← (recording.get "id").bind parseMbid
  return {
    id := id
    recordingId := recordingId
    title := (((trackField track recording "title").bind Json.asString).bind
      boundedCatalogText).getD ""
    artist := ((trackField track recording "artist-credit").map artistCredit).getD ""
    lengthMs := (trackField track recording "length").bind Json.asNatural
    trackNo := parseNumber (track.get "position")
    discNo := parseNumber (medium.get "position") }

def tracksOf (medium : Json) : List Json := (arrayAt medium "tracks").getD []

/-- The tracks that are read, each with its medium. -/
def trackEntries (media : List Json) : List (Json × Json) :=
  (media.take maxMedia).flatMap fun medium =>
    ((tracksOf medium).take maxTracksPerMedium).map fun track => (medium, track)

/-- The sum of the declared counts, where all are there and it fits 64 bits. -/
def declaredTracks (media : List Json) : Option ℕ :=
  media.foldlM (fun sum medium => (medium.index "track-count").asNatural.bind fun count =>
    if sum + count < 2 ^ 64 then some (sum + count) else none) 0

def boundedTextAt (value : Json) (key : String) : Option String :=
  (textAt value key).bind boundedCatalogText

def labelInfo (value : Json) : List Json := (((value.index "label-info").asArray).getD []).take 20

def parseReleaseDetail (value : Json) (expectedReleaseId recordingId : String) :
    Except CatalogError ReleaseDetail :=
  if textAt value "id" ≠ some expectedReleaseId then .error .invalidResponse
  else
    match arrayAt value "media" with
    | none => .error .invalidResponse
    | some media =>
      let entries := trackEntries media
      let slots := entries.filterMap fun entry => releaseSlot entry.1 entry.2
      let occurrences := entries.filter fun entry =>
        (entry.2.get "recording").bind (textAt · "id") = some recordingId
      let position := match occurrences with
        | [(medium, track)] =>
          (parseNumber (track.get "position"), parseNumber (medium.get "position"))
        | _ => (none, none)
      match boundedTextAt value "title" with
      | none => .error .invalidResponse
      | some title =>
        .ok {
          disambiguation := (boundedTextAt value "disambiguation").getD ""
          formats := (media.take 20).filterMap fun medium => boundedTextAt medium "format"
          labels := (labelInfo value).filterMap fun label =>
            boundedTextAt (label.index "label") "name"
          tracklistComplete := slots ≠ [] && media.length ≤ maxMedia &&
            declaredTracks media = some slots.length
          id := expectedReleaseId
          title := title
          artist := ((value.get "artist-credit").map artistCredit).getD ""
          artistCredits := parseArtistCredits (value.get "artist-credit")
          date := boundedTextAt value "date"
          originalReleaseDate := ((value.get "release-group").bind
            (textAt · "first-release-date")).filter fun date => (metadataDateYear date).isSome
          releaseGroupId := ((value.get "release-group").bind (·.get "id")).bind parseMbid
          trackNo := position.1
          discNo := position.2
          country := boundedTextAt value "country"
          barcode := boundedTextAt value "barcode"
          catalogNumbers := (labelInfo value).filterMap (boundedTextAt · "catalog-number")
          slots := slots }

/-- The media of a release with their tracks: each declares how many there are, and lists only
tracks of its own, in order and none twice. -/
def Correct (media : List Json) (tracks : List (List Json)) : Prop :=
  List.Forall₂ (fun medium tracks => (medium.index "track-count").asNatural = some tracks.length ∧
    List.Sublist (tracksOf medium) tracks) media tracks

theorem map_some_slots {medium : Json} {tracks : List Json}
    (hsub : List.Sublist (tracksOf medium) tracks) :
    let slots := ((tracksOf medium).take maxTracksPerMedium).filterMap (releaseSlot medium)
    slots.length ≤ tracks.length ∧
      (slots.length = tracks.length → slots.map some = tracks.map (releaseSlot medium)) := by
  have htaken := (List.take_sublist maxTracksPerMedium (tracksOf medium)).trans hsub
  have hparsed := List.length_filterMap_le (releaseSlot medium)
    ((tracksOf medium).take maxTracksPerMedium)
  have hle := htaken.length_le
  refine ⟨by omega, fun hlength => ?_⟩
  have hsame := htaken.eq_of_length (by omega)
  rw [hsame] at hlength ⊢
  exact map_some_filterMap hlength

theorem map_some_entries {media : List Json} {tracks : List (List Json)}
    (h : Correct media tracks) :
    let slots := (media.flatMap fun medium => ((tracksOf medium).take maxTracksPerMedium).map
      fun track => (medium, track)).filterMap fun entry => releaseSlot entry.1 entry.2
    slots.length ≤ (tracks.map List.length).sum ∧
      (slots.length = (tracks.map List.length).sum → slots.map some =
        (media.zip tracks).flatMap fun entry => entry.2.map (releaseSlot entry.1)) := by
  induction h with
  | nil => simp
  | @cons medium tracks media others hmedium _ ih =>
    obtain ⟨hle, hall⟩ := map_some_slots hmedium.2
    obtain ⟨hle', hall'⟩ := ih
    have hpart : (((tracksOf medium).take maxTracksPerMedium).map fun track =>
        (medium, track)).filterMap (fun entry => releaseSlot entry.1 entry.2) =
          ((tracksOf medium).take maxTracksPerMedium).filterMap (releaseSlot medium) := by
      rw [List.filterMap_map]
      rfl
    simp only [List.flatMap_cons, List.filterMap_append, hpart, List.length_append,
      List.map_append, List.map_cons, List.sum_cons, List.zip_cons_cons]
    refine ⟨by omega, fun hlength => ?_⟩
    rw [hall (by omega), hall' (by omega)]

theorem declaredTracks_eq {media : List Json} {tracks : List (List Json)} (h : Correct media tracks)
    {start total : ℕ} (hsum : media.foldlM (fun sum medium =>
      (medium.index "track-count").asNatural.bind fun count =>
        if sum + count < 2 ^ 64 then some (sum + count) else none) start = some total) :
    total = start + (tracks.map List.length).sum := by
  induction h generalizing start with
  | nil =>
    cases hsum
    simp
  | @cons medium tracks media others hmedium _ ih =>
    rw [List.foldlM_cons, hmedium.1, Option.bind_some] at hsum
    split at hsum
    · rw [ih hsum, List.map_cons, List.sum_cons, Nat.add_assoc]
    · cases hsum

theorem parseReleaseDetail_complete {value : Json} {expectedReleaseId recordingId : String}
    {detail : ReleaseDetail}
    (h : parseReleaseDetail value expectedReleaseId recordingId = .ok detail)
    (hcomplete : detail.tracklistComplete = true) {media : List Json} {tracks : List (List Json)}
    (hmedia : arrayAt value "media" = some media) (hcorrect : Correct media tracks) :
    detail.slots.map some =
      (media.zip tracks).flatMap fun entry => entry.2.map (releaseSlot entry.1) := by
  unfold parseReleaseDetail at h
  split at h
  · cases h
  · rw [hmedia] at h
    dsimp only at h
    split at h
    · cases h
    · cases h
      simp only [Bool.and_eq_true, decide_eq_true_eq] at hcomplete
      obtain ⟨⟨-, hshort⟩, hdeclared⟩ := hcomplete
      have hall : trackEntries media = media.flatMap fun medium =>
          ((tracksOf medium).take maxTracksPerMedium).map fun track => (medium, track) := by
        rw [trackEntries, List.take_of_length_le hshort]
      have htotal := declaredTracks_eq hcorrect hdeclared
      rw [Nat.zero_add, hall] at htotal
      dsimp only
      rw [hall]
      exact (map_some_entries hcorrect).2 htotal

/-- A catalog list called complete is complete: the releases of a recording, whatever fails on
the way, and the tracks of a release. -/
theorem complete_lists :
    (∀ (fetch : ℕ → ℕ → Except CatalogError Json) (catalog : List Json) (recording : Recording),
      AnswersFrom fetch catalog → (browsedRecording fetch recording).releasesComplete = true →
        ∀ entry ∈ catalog, ∃ release : ReleaseSummary,
          release ∈ (browsedRecording fetch recording).releases ∧
            (entry.get "id").bind parseMbid = some release.id) ∧
    ∀ (value : Json) (expectedReleaseId recordingId : String) (detail : ReleaseDetail)
      (media : List Json) (tracks : List (List Json)),
      parseReleaseDetail value expectedReleaseId recordingId = .ok detail →
        detail.tracklistComplete = true → arrayAt value "media" = some media →
          Correct media tracks → detail.slots.map some =
            (media.zip tracks).flatMap fun entry => entry.2.map (releaseSlot entry.1) :=
  ⟨fun _ _ recording hanswers h => browsedRecording_complete hanswers recording h,
    fun _ _ _ _ _ _ h hcomplete hmedia hcorrect =>
      parseReleaseDetail_complete h hcomplete hmedia hcorrect⟩

/-- A catalog that answers with two releases at a time. -/
def shortPages (catalog : List Json) (limit offset : ℕ) : Except CatalogError Json :=
  .ok (.object [("releases", .array ((catalog.drop offset).take (min limit 2))),
    ("release-count", .number (.integer catalog.length))])

def mediumOf (tracks : List Json) : Json :=
  .object [("track-count", .number (.integer tracks.length)), ("tracks", .array tracks)]

def trackOf (id recordingId : String) : Json :=
  .object [("id", .string id), ("recording", .object [("id", .string recordingId)])]

def debutMedia : List Json :=
  [mediumOf [trackOf "00000000-0000-0000-0000-00000000000b" "00000000-0000-0000-0000-00000000000c",
      trackOf "00000000-0000-0000-0000-00000000000d" "00000000-0000-0000-0000-00000000000e"],
    mediumOf
      [trackOf "00000000-0000-0000-0000-00000000000f" "00000000-0000-0000-0000-00000000001a"]]

def debutRelease : Json :=
  .object [("id", .string "00000000-0000-0000-0000-00000000000a"), ("title", .string "Debut"),
    ("media", .array debutMedia)]

def editionOf (id title : String) : Json := .object [("id", .string id), ("title", .string title)]

/-- Three releases, of which one came with the recording. -/
def debutCatalog : List Json :=
  [debutRelease, editionOf "00000000-0000-0000-0000-00000000002a" "Revival",
    editionOf "00000000-0000-0000-0000-00000000002b" "Anthology"]

def debutRecording : Recording :=
  ⟨"", "", [], [], none, parseReleases (some (.array [debutRelease])), false, [], [], [], none⟩

theorem complete_lists_debut :
    (∀ entry ∈ debutCatalog, ∃ release : ReleaseSummary,
      release ∈ (browsedRecording (shortPages debutCatalog) debutRecording).releases ∧
        (entry.get "id").bind parseMbid = some release.id) ∧
    ∃ detail, parseReleaseDetail debutRelease "00000000-0000-0000-0000-00000000000a" "" =
      .ok detail ∧ detail.slots.length = 3 := by
  have hcomplete :
      (browsedRecording (shortPages debutCatalog) debutRecording).releasesComplete = true := by
    have hfirst : releasePage (shortPages debutCatalog) 25 0 = .ok (.object [("releases",
        .array (debutCatalog.take 2)), ("release-count", .number (.integer 3))]) :=
      releasePage_of_valid rfl (by decide +kernel)
    have hsecond : releasePage (shortPages debutCatalog) 25 2 = .ok (.object [("releases",
        .array (debutCatalog.drop 2)), ("release-count", .number (.integer 3))]) :=
      releasePage_of_valid rfl (by decide +kernel)
    have hlast : ∀ releases,
        (browseReleases (shortPages debutCatalog) 2 releases).complete = true := by
      intro releases
      rw [browseReleases, if_pos (by decide), show min (maxReleases - 2) 25 = 25 from rfl, hsecond]
      rfl
    show (browseReleases _ 0 _).complete = true
    rw [browseReleases, if_pos (by decide), show min (maxReleases - 0) 25 = 25 from rfl, hfirst]
    exact hlast _
  have hanswers : AnswersFrom (shortPages debutCatalog) debutCatalog := by
    intro limit offset page hpage
    cases hpage
    refine ⟨rfl, _, rfl, ?_, fun hempty => ?_⟩
    · exact (List.take_prefix_take_left (Nat.min_le_left limit 2))
    · rcases List.take_eq_nil_iff.mp hempty with hzero | hnil
      · rw [show limit = 0 by omega, List.take_zero]
      · rw [hnil, List.take_nil]
  refine ⟨complete_lists.1 _ _ debutRecording hanswers hcomplete, ?_⟩
  obtain ⟨detail, hdetail, htracks⟩ : ∃ detail, parseReleaseDetail debutRelease
      "00000000-0000-0000-0000-00000000000a" "" = .ok detail ∧ detail.tracklistComplete = true := by
    refine ⟨_, rfl, ?_⟩
    decide +kernel
  have hslots := complete_lists.2 debutRelease _ _ detail debutMedia _ hdetail htracks rfl
    (.cons ⟨rfl, List.Sublist.refl _⟩ (.cons ⟨rfl, List.Sublist.refl _⟩ .nil))
  refine ⟨detail, hdetail, ?_⟩
  have := congrArg List.length hslots
  rw [List.length_map] at this
  rw [this]
  rfl

end MusicServer.Browsing
