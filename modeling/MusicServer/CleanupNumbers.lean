/-
# Numbered names

A name with a number keeps its digits, between the last opening bracket and the closing one, so
the folded names of two numbers differ.  Hence counting comes to a free name before it has tried
more numbers than there are names in use.
-/
import MusicServer.CleanupRuns
import MusicServer.FirstFree

namespace MusicServer

namespace Cleanup

open Enrichment LibraryIndex

/-- An ASCII character that is no capital letter is its own lower case. -/
def KeepsAscii (tables : CleanupTables) : Prop :=
  ∀ c : Char, c.toNat < 128 → c.isUpper = false → tables.toLowercase c = [c]

variable {tables : CleanupTables}

theorem caseKey_append (left right : List Char) :
    caseKey tables (left ++ right) = caseKey tables left ++ caseKey tables right := by
  unfold caseKey
  rw [List.flatMap_append, List.flatMap_append]

theorem caseKey_ascii (h : KeepsAscii tables) {text : List Char}
    (htext : ∀ c ∈ text, c.toNat < 128 ∧ c.isUpper = false) : caseKey tables text = text := by
  have hlower : text.flatMap tables.toLowercase = text := by
    rw [List.flatMap_congr (g := fun c => [c]) fun c hc => h c (htext c hc).1 (htext c hc).2]
    exact List.flatMap_singleton' text
  unfold caseKey
  rw [hlower, List.flatMap_congr (g := fun c => [c])]
  · exact List.flatMap_singleton' text
  · intro c hc
    have hsharp : c ≠ 'ß' := by
      rintro rfl
      exact absurd (htext _ hc).1 (by decide)
    rw [if_neg hsharp]

/-! ## Digits -/

theorem isDigit_of_mem_digits {number : ℕ} {c : Char} (h : c ∈ digits number) :
    c.isDigit = true := by
  have hdigits : digits number = Nat.toDigits 10 number := Nat.toList_repr
  rw [hdigits] at h
  exact Nat.isDigit_of_mem_toDigits (by decide) (by decide) h

theorem digits_ne_nil (number : ℕ) : digits number ≠ [] := by
  have hdigits : digits number = Nat.toDigits 10 number := Nat.toList_repr
  rw [hdigits]
  exact Nat.toDigits_ne_nil

theorem digits_injective {left right : ℕ} (h : digits left = digits right) : left = right := by
  have hdigits : ∀ number, digits number = Nat.toDigits 10 number := fun _ => Nat.toList_repr
  rw [hdigits, hdigits] at h
  have hread := congrArg (fun text => Nat.ofDigitChars 10 text 0) h
  simpa using hread

theorem digit_range {c : Char} (h : c.isDigit = true) : 48 ≤ c.toNat ∧ c.toNat ≤ 57 := by
  unfold Char.isDigit at h
  rw [Bool.and_eq_true, decide_eq_true_iff, decide_eq_true_iff] at h
  exact ⟨UInt32.le_iff_toNat_le.mp h.1, UInt32.le_iff_toNat_le.mp h.2⟩

theorem ne_of_digit {c other : Char} (h : c.isDigit = true)
    (hother : other.toNat < 48 ∨ 57 < other.toNat) : c ≠ other := by
  rintro rfl
  have := digit_range h
  omega

theorem trimMatches_eq_self {chars text : List Char} (h : ∀ c ∈ text, c ∉ chars) :
    trimMatches chars text = text := by
  have hdrop : ∀ text : List Char, (∀ c ∈ text, c ∉ chars) →
      text.dropWhile (fun c => c ∈ chars) = text := by
    intro text htext
    cases text with
    | nil => rfl
    | cons c rest => exact List.dropWhile_cons_of_neg (by simpa using htext c List.mem_cons_self)
  unfold trimMatches trimEndMatches
  rw [hdrop text h, hdrop text.reverse fun c hc => h c (List.mem_reverse.mp hc),
    List.reverse_reverse]

theorem portableCollisionPart_digits (number : ℕ) :
    portableCollisionPart (digits number) = digits number := by
  have hdigit : ∀ c ∈ digits number, c.isDigit = true := fun c hc => isDigit_of_mem_digits hc
  have hmap : (digits number).map (fun c =>
      if isControl c ∨ c ∈ ['<', '>', ':', '"', '/', '\\', '|', '?', '*'] then '-' else c)
      = digits number := by
    rw [List.map_congr_left (g := id), List.map_id]
    intro c hc
    refine if_neg ?_
    have hrange := digit_range (hdigit c hc)
    rintro (hcontrol | hmem)
    · simp only [isControl, Bool.or_eq_true, Bool.and_eq_true, decide_eq_true_iff] at hcontrol
      omega
    · simp only [List.mem_cons, List.not_mem_nil, or_false] at hmem
      rcases hmem with rfl | rfl | rfl | rfl | rfl | rfl | rfl | rfl | rfl <;>
        exact absurd hrange (by decide)
  have hblank : ∀ c ∈ digits number, isWhiteSpace c = false := by
    intro c hc
    have hrange := digit_range (hdigit c hc)
    simp only [isWhiteSpace, Bool.or_eq_false_iff, Bool.and_eq_false_iff, decide_eq_false_iff_not]
    omega
  have hcollapse : Cleanup.collapse (digits number) = digits number := by
    unfold Cleanup.collapse Vocabulary.splitWhitespace
    rw [List.splitOnP_eq_singleton hblank, List.filter_cons_of_pos (by simp [digits_ne_nil])]
    simp
  unfold portableCollisionPart
  rw [hmap, hcollapse]
  refine trimMatches_eq_self fun c hc => ?_
  have hspace : c ≠ ' ' := ne_of_digit (hdigit c hc) (.inl (by decide))
  have hdot : c ≠ '.' := ne_of_digit (hdigit c hc) (.inl (by decide))
  simp [hspace, hdot]

theorem takeBytes_of_le {budget : ℕ} {text : List Char} (h : byteLength text ≤ budget) :
    takeBytes budget text = text := by
  induction text generalizing budget with
  | nil => cases budget <;> rfl
  | cons c rest ih =>
    unfold byteLength at h ih
    rw [List.map_cons, List.sum_cons] at h
    unfold takeBytes
    rw [if_pos (by omega), ih (by omega)]

theorem byteLength_digits {number : ℕ} (h : number < 10 ^ 24) : byteLength (digits number) ≤ 24 := by
  have hdigits : digits number = Nat.toDigits 10 number := Nat.toList_repr
  have hlength : (digits number).length ≤ 24 := by
    rw [hdigits]
    exact (Nat.length_toDigits_le_iff (by decide) (by decide)).mpr h
  have hsize : ∀ size ∈ (digits number).map Char.utf8Size, size ≤ 1 := by
    intro size hsize
    obtain ⟨c, hc, rfl⟩ := List.mem_map.mp hsize
    have hrange := digit_range (isDigit_of_mem_digits hc)
    have hone : c.utf8Size = 1 := by
      unfold Char.utf8Size
      rw [if_pos (UInt32.le_iff_toNat_le.mpr (by
        change c.toNat ≤ 127
        omega))]
    omega
  have hsum := List.sum_le_card_nsmul _ 1 hsize
  rw [List.length_map, smul_eq_mul, Nat.mul_one] at hsum
  exact hsum.trans hlength

/-! ## Numbered names -/

theorem numberedStem_eq {stem suffix : List Char} {number : ℕ} (hroom : byteLength suffix ≤ 208)
    (hnumber : number < 10 ^ 24) :
    ∃ base, numberedStem stem suffix number = base ++ ' ' :: '(' :: (digits number ++ [')']) := by
  have hbytes := byteLength_digits hnumber
  unfold numberedStem collisionStem
  dsimp only
  rw [portableCollisionPart_digits, @takeBytes_of_le _ (digits number)]
  · exact ⟨_, rfl⟩
  · rw [Nat.le_min]
    omega

theorem caseKey_numbered (h : KeepsAscii tables) {stem suffix : List Char} {number : ℕ}
    (hroom : byteLength suffix ≤ 208) (hnumber : number < 10 ^ 24) :
    ∃ base, caseKey tables (numberedStem stem suffix number ++ suffix) =
      base ++ '(' :: (digits number ++ [')']) ++ caseKey tables suffix := by
  obtain ⟨base, hstem⟩ := @numberedStem_eq stem suffix number hroom hnumber
  have hascii : caseKey tables ('(' :: (digits number ++ [')'])) = '(' :: (digits number ++ [')']) := by
    refine caseKey_ascii h fun c hc => ?_
    rw [List.mem_cons, List.mem_append, List.mem_singleton] at hc
    rcases hc with rfl | hdigit | rfl
    · decide
    · have hrange := digit_range (isDigit_of_mem_digits hdigit)
      refine ⟨by omega, ?_⟩
      refine Bool.eq_false_iff.mpr fun hupper => ?_
      have hbound : 65 ≤ c.toNat := UInt32.le_iff_toNat_le.mp (of_decide_eq_true hupper).1
      omega
    · decide
  have hsplit : base ++ ' ' :: '(' :: (digits number ++ [')']) ++ suffix =
      base ++ [' '] ++ '(' :: (digits number ++ [')']) ++ suffix := by
    simp
  refine ⟨caseKey tables (base ++ [' ']), ?_⟩
  rw [hstem, hsplit, caseKey_append, caseKey_append _ ('(' :: _), hascii]

theorem numbered_injective (h : KeepsAscii tables) {stem suffix : List Char} {left right : ℕ}
    (hroom : byteLength suffix ≤ 208) (hleft : left < 10 ^ 24) (hright : right < 10 ^ 24)
    (hsame : caseKey tables (numberedStem stem suffix left ++ suffix) =
      caseKey tables (numberedStem stem suffix right ++ suffix)) : left = right := by
  obtain ⟨base, hbase⟩ := @caseKey_numbered tables h stem suffix left hroom hleft
  obtain ⟨base', hbase'⟩ := @caseKey_numbered tables h stem suffix right hroom hright
  have hbracket : ∀ number, '(' ∉ digits number ++ [')'] := by
    intro number hmem
    rw [List.mem_append, List.mem_singleton] at hmem
    rcases hmem with hdigit | hclose
    · exact ne_of_digit (isDigit_of_mem_digits hdigit) (.inl (by decide)) rfl
    · exact absurd hclose (by decide)
  rw [hbase, hbase', List.append_left_inj] at hsame
  have hsplit := congrArg (rsplitOnce '(') hsame
  rw [rsplitOnce_append (hbracket left), rsplitOnce_append (hbracket right)] at hsplit
  have hback := (Prod.mk.inj (Option.some.inj hsplit)).2
  exact digits_injective (List.append_left_injective _ hback)

theorem exists_free_number (h : KeepsAscii tables) {stem suffix : List Char}
    (hroom : byteLength suffix ≤ 208) {inUse : List (List Char)}
    (hfew : inUse.length < counterRoom) :
    ∃ name ∈ (List.range' 2 counterRoom).map (numberedStem stem suffix),
      caseKey tables (name ++ suffix) ∉ inUse := by
  have hsmall : ∀ number ∈ List.range' 2 counterRoom, number < 10 ^ 24 := by
    intro number hnumber
    have hbound := (List.mem_range'_1.mp hnumber).2
    have hlimit : 2 + counterRoom < 10 ^ 24 := by decide
    omega
  have hkeys : ((List.range' 2 counterRoom).map fun number =>
      caseKey tables (numberedStem stem suffix number ++ suffix)).Nodup := by
    refine List.Nodup.map_on (fun left hleft right hright hsame => ?_) List.nodup_range'
    exact numbered_injective h hroom (hsmall left hleft) (hsmall right hright) hsame
  obtain ⟨number, hnumber, hfree⟩ := FirstFree.exists_not_mem hkeys
    (by rwa [List.length_range'])
  exact ⟨_, List.mem_map_of_mem hnumber, hfree⟩

end Cleanup

end MusicServer
