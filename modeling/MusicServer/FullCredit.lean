/-
# An authored credit and the credits of the catalog

An authored artist credit is kept as it is written where it spells the whole credit of the
catalog: every artist in order, by one of the names known of the artist, with every join phrase.
The check goes over the credits with the set of what can be left of the authored text.  The main
result, `fullCreditMatches_iff`, is that nothing is lost or let in by keeping a set: the check
passes exactly where some choice of one spelling for each credit gives the authored text.
-/
import MusicServer.CleanupText

namespace MusicServer

namespace Enrichment

variable (tables : CleanupTables)

/-- `str::to_lowercase`, character by character. -/
def lowered (text : List Char) : List Char := text.flatMap tables.toLowercase

def isAscii (text : List Char) : Bool := text.all fun c => c.toNat < 128

/-- The names that may stand for a credited artist: with a letter, not too long, and either the
credited name or a name in another script. -/
def spellings (credit : ArtistCredit) (artist : Artist) : List String :=
  (credit.name :: artist.name :: artist.sortName.toList ++ artist.creditAliases.take 100).filter
    fun name =>
      (name.toList.any tables.isAlphabetic && name.utf8ByteSize ≤ 512) &&
        (lowered tables name.toList = lowered tables credit.name.toList ||
          isAscii (cleanupLooseKey tables.toTextRules name) !=
            isAscii (cleanupLooseKey tables.toTextRules credit.name))

/-- How the credit can start a text, with its join phrase. -/
def spelledCredits (credit : ArtistCredit) (artist : Artist) : BTreeSet (List Char) :=
  .ofList ((spellings tables credit artist).map fun name =>
    lowered tables (trimChars name.toList ++ credit.joinPhrase.toList))

def remaining (spelled suffixes : BTreeSet (List Char)) : BTreeSet (List Char) :=
  .ofList (suffixes.toList.flatMap fun rest => spelled.toList.filterMap fun name =>
    name.isPrefixOf? rest)

def matchCredits (artists : BTreeMap String Artist) :
    List ArtistCredit → BTreeSet (List Char) → Bool
  | [], suffixes => suffixes.contains []
  | credit :: rest, suffixes =>
    match artists[credit.artistId]? with
    | none => false
    | some artist =>
      let suffixes := remaining (spelledCredits tables credit artist) suffixes
      if suffixes.isEmpty then false else matchCredits artists rest suffixes

def fullCreditMatches (authored : String) (credits : List ArtistCredit)
    (artists : BTreeMap String Artist) : Bool :=
  matchCredits tables artists credits (.ofList [lowered tables (trimChars authored.toList)])

/-! ## Choices of spellings -/

/-- The artist of the credit is known, and the spelling is one of the artist's names without the
blanks around it. -/
def Admissible (artists : BTreeMap String Artist) (credit : ArtistCredit) (spelling : List Char) :
    Prop :=
  ∃ artist, artists[credit.artistId]? = some artist ∧
    ∃ name ∈ spellings tables credit artist, trimChars name.toList = spelling

/-- The text of the credits in the spellings that are chosen. -/
def creditText (credits : List ArtistCredit) (chosen : List (List Char)) : List Char :=
  (List.zipWith (fun credit spelling => spelling ++ credit.joinPhrase.toList) credits
    chosen).flatten

variable {tables} {artists : BTreeMap String Artist} {suffixes : BTreeSet (List Char)}

theorem lowered_append (left right : List Char) :
    lowered tables (left ++ right) = lowered tables left ++ lowered tables right :=
  List.flatMap_append

theorem mem_spelledCredits {credit : ArtistCredit} {artist : Artist} {text : List Char} :
    text ∈ spelledCredits tables credit artist ↔
      ∃ name ∈ spellings tables credit artist,
        lowered tables (trimChars name.toList ++ credit.joinPhrase.toList) = text := by
  unfold spelledCredits
  rw [Std.ExtTreeSet.mem_ofList, List.contains_iff_mem, List.mem_map]

theorem mem_remaining {spelled : BTreeSet (List Char)} {rest : List Char} :
    rest ∈ remaining spelled suffixes ↔ ∃ name ∈ spelled, name ++ rest ∈ suffixes := by
  unfold remaining
  rw [Std.ExtTreeSet.mem_ofList, List.contains_iff_mem, List.mem_flatMap]
  constructor
  · rintro ⟨whole, hwhole, hrest⟩
    obtain ⟨name, hname, hstrip⟩ := List.mem_filterMap.mp hrest
    rw [List.isPrefixOf?_eq_some_iff_append_eq] at hstrip
    exact ⟨name, Std.ExtTreeSet.mem_toList.mp hname, hstrip ▸ Std.ExtTreeSet.mem_toList.mp hwhole⟩
  · rintro ⟨name, hname, hwhole⟩
    refine ⟨name ++ rest, Std.ExtTreeSet.mem_toList.mpr hwhole, ?_⟩
    exact List.mem_filterMap.mpr ⟨name, Std.ExtTreeSet.mem_toList.mpr hname,
      List.isPrefixOf?_eq_some_iff_append_eq.mpr rfl⟩

/-- One credit: what is left can be completed exactly where a spelling of the credit and what is
left after it can. -/
theorem matchCredits_cons {credit : ArtistCredit} {rest : List ArtistCredit}
    (ih : ∀ suffixes, matchCredits tables artists rest suffixes = true ↔
      ∃ chosen, List.Forall₂ (Admissible tables artists) rest chosen ∧
        lowered tables (creditText rest chosen) ∈ suffixes) :
    matchCredits tables artists (credit :: rest) suffixes = true ↔
      ∃ chosen, List.Forall₂ (Admissible tables artists) (credit :: rest) chosen ∧
        lowered tables (creditText (credit :: rest) chosen) ∈ suffixes := by
  unfold matchCredits
  constructor
  · intro h
    split at h
    · cases h
    · next artist hartist =>
      dsimp only at h
      split at h
      · cases h
      · obtain ⟨chosen, hchosen, htext⟩ := (ih _).mp h
        obtain ⟨spelled, hspelled, hwhole⟩ := mem_remaining.mp htext
        obtain ⟨name, hname, rfl⟩ := mem_spelledCredits.mp hspelled
        refine ⟨trimChars name.toList :: chosen,
          .cons ⟨artist, hartist, name, hname, rfl⟩ hchosen, ?_⟩
        rwa [← lowered_append] at hwhole
  · rintro ⟨chosen, hchosen, htext⟩
    obtain ⟨spelling, others, ⟨artist, hartist, name, hname, rfl⟩, hothers, rfl⟩ :=
      List.forall₂_cons_left_iff.mp hchosen
    rw [hartist]
    have hleft : lowered tables (creditText rest others) ∈
        remaining (spelledCredits tables credit artist) suffixes := by
      refine mem_remaining.mpr ⟨_, mem_spelledCredits.mpr ⟨name, hname, rfl⟩, ?_⟩
      rwa [← lowered_append]
    dsimp only
    rw [if_neg]
    · exact (ih _).mpr ⟨others, hothers, hleft⟩
    · -- something is left, so the loop goes on
      intro hempty
      rw [Std.ExtTreeSet.isEmpty_iff.mp hempty] at hleft
      exact Std.ExtTreeSet.not_mem_empty hleft

theorem matchCredits_iff (credits : List ArtistCredit) (suffixes : BTreeSet (List Char)) :
    matchCredits tables artists credits suffixes = true ↔
      ∃ chosen, List.Forall₂ (Admissible tables artists) credits chosen ∧
        lowered tables (creditText credits chosen) ∈ suffixes := by
  induction credits generalizing suffixes with
  | nil =>
    unfold matchCredits
    rw [Std.ExtTreeSet.contains_iff_mem]
    constructor
    · exact fun h => ⟨[], .nil, h⟩
    · rintro ⟨chosen, hchosen, htext⟩
      rw [List.forall₂_nil_left_iff] at hchosen
      rwa [hchosen] at htext
  | cons credit rest ih => exact matchCredits_cons ih

/-- The check passes exactly where one spelling can be chosen for each credit so that the credits
with their join phrases read as the authored text. -/
theorem fullCreditMatches_iff (authored : String) (credits : List ArtistCredit)
    (artists : BTreeMap String Artist) :
    fullCreditMatches tables authored credits artists = true ↔
      ∃ chosen, List.Forall₂ (Admissible tables artists) credits chosen ∧
        lowered tables (creditText credits chosen) =
          lowered tables (trimChars authored.toList) := by
  unfold fullCreditMatches
  rw [matchCredits_iff]
  simp only [Std.ExtTreeSet.mem_ofList, List.contains_iff_mem, List.mem_singleton]

end Enrichment

end MusicServer
