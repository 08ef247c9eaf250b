/-
# Library paths

A canonical, non-empty, relative path with forward slashes, as the library, its index and
the originals tree name their files.  The text is checked once, in `LibraryPath.parse`;
the structure carries the check, so every path of the model is canonical.
-/
import Mathlib.Data.List.Basic

namespace MusicServer

/-! ## Splitting at a separator -/

/-- The text before and after the last separator. -/
def rsplitOnce (separator : Char) : List Char → Option (List Char × List Char)
  | [] => none
  | c :: rest =>
    match rsplitOnce separator rest with
    | some (front, back) => some (c :: front, back)
    | none => if c = separator then some ([], rest) else none

/-- The components of a text between slashes. -/
def splitSlash : List Char → List (List Char)
  | [] => [[]]
  | c :: rest =>
    if c = '/' then [] :: splitSlash rest
    else
      match splitSlash rest with
      | [] => [[c]]
      | component :: components => (c :: component) :: components

theorem rsplitOnce_eq_none {separator : Char} {text : List Char} :
    rsplitOnce separator text = none ↔ separator ∉ text := by
  induction text with
  | nil => simp [rsplitOnce]
  | cons c rest ih =>
    unfold rsplitOnce
    rw [List.mem_cons, not_or, ← ih]
    cases hrest : rsplitOnce separator rest with
    | some split => simp
    | none => simp [eq_comm]

theorem rsplitOnce_append {separator : Char} {back : List Char} (hback : separator ∉ back)
    (front : List Char) :
    rsplitOnce separator (front ++ separator :: back) = some (front, back) := by
  induction front with
  | nil => simp [rsplitOnce, rsplitOnce_eq_none.mpr hback]
  | cons c rest ih => simp [rsplitOnce, ih]

theorem rsplitOnce_sound {separator : Char} {text front back : List Char}
    (h : rsplitOnce separator text = some (front, back)) :
    text = front ++ separator :: back ∧ separator ∉ back := by
  induction text generalizing front with
  | nil => simp [rsplitOnce] at h
  | cons c rest ih =>
    unfold rsplitOnce at h
    cases hrest : rsplitOnce separator rest with
    | some split =>
      obtain ⟨front', back'⟩ := split
      rw [hrest] at h
      cases h
      obtain ⟨hsplit, hback⟩ := ih hrest
      exact ⟨by rw [hsplit, List.cons_append], hback⟩
    | none =>
      rw [hrest] at h
      dsimp only at h
      split at h
      · next hc =>
        cases h
        exact ⟨by rw [hc, List.nil_append], rsplitOnce_eq_none.mp hrest⟩
      · cases h

theorem splitSlash_ne_nil (text : List Char) : splitSlash text ≠ [] := by
  cases text with
  | nil => simp [splitSlash]
  | cons c rest =>
    unfold splitSlash
    split
    · simp
    · split <;> simp

theorem splitSlash_append (front back : List Char) :
    splitSlash (front ++ '/' :: back) = splitSlash front ++ splitSlash back := by
  induction front with
  | nil => simp [splitSlash]
  | cons c rest ih =>
    simp only [List.cons_append, splitSlash, ih]
    split
    · rw [List.cons_append]
    · obtain ⟨component, components, hsplit⟩ := List.exists_cons_of_ne_nil (splitSlash_ne_nil rest)
      rw [hsplit]
      rfl

theorem splitSlash_of_not_mem {text : List Char} (h : '/' ∉ text) : splitSlash text = [text] := by
  induction text with
  | nil => rfl
  | cons c rest ih =>
    rw [List.mem_cons, not_or] at h
    unfold splitSlash
    rw [if_neg (Ne.symm h.1), ih h.2]

/-! ## Checking a path -/

/-- The largest UTF-8 size of a path, the width of the index's path column. -/
def maxMediaPathBytes : ℕ := 1024

inductive MediaPathError where
  | empty
  | tooLong
  | absolute
  | platformSeparator
  | emptyComponent
  | currentDirectoryComponent
  | parentDirectoryComponent
  | platformPrefix
  | controlCharacter
  deriving DecidableEq

def isControl (c : Char) : Bool := c.toNat < 0x20 || (0x7f ≤ c.toNat && c.toNat < 0xa0)

def hasWindowsDrivePrefix : List Char → Bool
  | c :: ':' :: _ => c.isAlpha
  | _ => false

def validateComponent (component : List Char) : Except MediaPathError Unit :=
  if component = [] then .error .emptyComponent
  else if component = ['.'] then .error .currentDirectoryComponent
  else if component = ['.', '.'] then .error .parentDirectoryComponent
  else if hasWindowsDrivePrefix component then .error .platformPrefix
  else .ok ()

/-- The checks component by component, up to the first that fails. -/
def validateComponents : List (List Char) → Except MediaPathError Unit
  | [] => .ok ()
  | component :: rest => (validateComponent component).bind fun _ => validateComponents rest

def validateText (value : List Char) : Except MediaPathError Unit :=
  if value = [] then .error .empty
  else if (String.ofList value).utf8ByteSize > maxMediaPathBytes then .error .tooLong
  else if value.head? = some '/' then .error .absolute
  else if '\\' ∈ value then .error .platformSeparator
  else if value.any isControl then .error .controlCharacter
  else validateComponents (splitSlash value)

def GoodComponent (component : List Char) : Prop := validateComponent component = .ok ()

theorem validateComponents_eq_ok {components : List (List Char)} :
    validateComponents components = .ok () ↔ ∀ component ∈ components, GoodComponent component := by
  induction components with
  | nil => simp [validateComponents]
  | cons component rest ih =>
    rw [List.forall_mem_cons, ← ih, validateComponents]
    unfold GoodComponent
    cases validateComponent component with
    | error e | ok _ => simp [Except.bind]

theorem validateText_eq_ok {value : List Char} :
    validateText value = .ok () ↔
      value ≠ [] ∧ (String.ofList value).utf8ByteSize ≤ maxMediaPathBytes ∧ value.head? ≠ some '/' ∧
        '\\' ∉ value ∧ value.any isControl = false ∧
        ∀ component ∈ splitSlash value, GoodComponent component := by
  rw [← validateComponents_eq_ok]
  unfold validateText
  split
  · next hempty => simp [hempty]
  · next hempty =>
    split
    · next hlong =>
      rw [← Nat.not_lt]
      simp [hlong]
    · next hlong =>
      rw [Nat.not_lt] at hlong
      simp only [hempty, hlong, ne_eq, not_false_eq_true, true_and]
      split
      · next habsolute => simp [habsolute]
      · next habsolute =>
        split
        · next hseparator => simp [hseparator]
        · next hseparator =>
          split
          · next hcontrol => simp [hcontrol]
          · next hcontrol => simp [habsolute, hseparator, hcontrol]

/-! ## The path type -/

/-- A checked path; the field says that the check accepts its text. -/
structure LibraryPath where
  encoded : List Char
  canonical : validateText encoded = .ok ()

theorem LibraryPath.ext {p q : LibraryPath} (h : p.encoded = q.encoded) : p = q := by
  cases p
  cases q
  cases h
  rfl

instance : DecidableEq LibraryPath := fun p q =>
  decidable_of_iff (p.encoded = q.encoded) ⟨LibraryPath.ext, congrArg LibraryPath.encoded⟩

namespace LibraryPath

def parse (value : List Char) : Except MediaPathError LibraryPath :=
  match h : validateText value with
  | .ok _ => .ok ⟨value, h⟩
  | .error e => .error e

theorem parse_eq_ok {value : List Char} {path : LibraryPath} :
    parse value = .ok path ↔ path.encoded = value := by
  unfold parse
  split
  · constructor
    · intro h
      cases h
      rfl
    · rintro rfl
      rfl
  · next e herror =>
    constructor
    · intro h
      cases h
    · rintro rfl
      rw [path.canonical] at herror
      cases herror

def asStr (path : LibraryPath) : String := String.ofList path.encoded

def fileName (path : LibraryPath) : List Char :=
  ((rsplitOnce '/' path.encoded).map Prod.snd).getD path.encoded

theorem canonical_front {value front back : List Char} (h : validateText value = .ok ())
    (hsplit : rsplitOnce '/' value = some (front, back)) : validateText front = .ok () := by
  obtain ⟨rfl, -⟩ := rsplitOnce_sound hsplit
  rw [validateText_eq_ok] at h ⊢
  obtain ⟨-, hsize, habsolute, hseparator, hcontrol, hcomponents⟩ := h
  rw [splitSlash_append] at hcomponents
  have hfront : ∀ component ∈ splitSlash front, GoodComponent component := by
    intro component hmem
    exact hcomponents component (List.mem_append_left _ hmem)
  refine ⟨?_, ?_, ?_, ?_, ?_, hfront⟩
  · rintro rfl
    exact habsolute rfl
  · rw [String.ofList_append, String.utf8ByteSize_append] at hsize
    omega
  · intro hslash
    cases front with
    | nil => cases hslash
    | cons c rest => exact habsolute hslash
  · intro hmem
    exact hseparator (List.mem_append_left _ hmem)
  · simp only [List.any_append, Bool.or_eq_false_iff] at hcontrol
    exact hcontrol.1

def parent (path : LibraryPath) : Option LibraryPath :=
  match h : rsplitOnce '/' path.encoded with
  | some (front, _) => some ⟨front, canonical_front path.canonical h⟩
  | none => none

def join (path : LibraryPath) (descendant : List Char) : Except MediaPathError LibraryPath :=
  parse (path.encoded ++ '/' :: descendant)

/-- The last component's name before its extension; a leading dot is part of the stem. -/
def fileStem (path : LibraryPath) : List Char :=
  match rsplitOnce '.' path.fileName with
  | some (front, _) => if front = [] then path.fileName else front
  | none => path.fileName

/-- Replaces the last component's extension, or appends one when it has none. -/
def withExtension (path : LibraryPath) (extension : List Char) :
    Except MediaPathError LibraryPath :=
  let name := path.fileStem ++ '.' :: extension
  match path.parent with
  | none => parse name
  | some parent => parent.join name

end LibraryPath

end MusicServer
