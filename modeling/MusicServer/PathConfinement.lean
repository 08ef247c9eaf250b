/-
# Rooted paths stay beneath their root

`path.rs` in `music-media`, on a tree whose symbolic links lead anywhere.  The system resolves a
path link by link; each walk of the server looks at a component itself before it goes through it.

* `resolve_plain`: what is resolved is no link, and below directories only;
* `resolve_names`: a place without links resolves to itself;
* `paths_confined`: what the five walks return, and what they create.
-/
import MusicServer.FileMutations

namespace MusicServer.PathConfinement

open CrashProgram (IoErrorKind)

/-! ## The tree -/

inductive Component where
  | parent
  | name (name : List Char)
  deriving DecidableEq

inductive Node where
  | directory
  | file
  | special
  | symlink (absolute : Bool) (target : List Component)
  deriving DecidableEq

abbrev Place := List (List Char)

structure Tree where
  node : Place → Option Node
  parent : ∀ place name, node (place ++ [name]) ≠ none → node place = some .directory

namespace Tree

/-- The system gives up after so many steps, as it does where links lead in a circle. -/
def resolve (tree : Tree) : ℕ → Place → List Component → Except IoErrorKind Place
  | _, place, [] => .ok place
  | 0, _, _ => .error .device
  | steps + 1, place, .parent :: rest => tree.resolve steps place.dropLast rest
  | steps + 1, place, .name name :: rest =>
    match tree.node (place ++ [name]) with
    | none => .error .notFound
    | some .directory => tree.resolve steps (place ++ [name]) rest
    | some (.symlink absolute target) =>
      tree.resolve steps (if absolute then [] else place) (target ++ rest)
    | some _ => if rest.isEmpty then .ok (place ++ [name]) else .error .notADirectory

def mkdir (tree : Tree) (place : Place) (name : List Char)
    (h : tree.node place = some .directory) : Tree where
  node other := if other = place ++ [name] then some .directory else tree.node other
  parent other last hsome := by
    split
    · rfl
    · split at hsome
      · next heq =>
        rw [(List.append_inj' heq rfl).1]
        exact h
      · exact tree.parent other last hsome

end Tree

/-! ## Calls of the system -/

/-- How far it resolves a path, and which calls fail for reasons of their own. -/
structure Host where
  steps : ℕ
  fails : String → Place → Bool

variable (host : Host) (tree : Tree)

def Host.locate (operation : String) (path : Place) : Except IoErrorKind Place :=
  if host.fails operation path then .error .device
  else tree.resolve host.steps [] (path.map .name)

def canonicalize (operation : String) (path : Place) : Except RootedPathError Place :=
  (host.locate tree operation path).mapError .io

def symlinkMetadata (operation : String) (path : Place) (name : List Char) :
    Except IoErrorKind Node := do
  let place ← host.locate tree operation path
  match tree.node place, tree.node (place ++ [name]) with
  | some .directory, some node => return node
  | some .directory, none => throw .notFound
  | _, _ => throw .notADirectory

def createDir (path : Place) (name : List Char) : Except IoErrorKind Unit × Tree :=
  match host.locate tree "create media directory" path with
  | .error kind => (.error kind, tree)
  | .ok place =>
    if h : tree.node place = some .directory then
      match tree.node (place ++ [name]) with
      | some _ => (.error .alreadyExists, tree)
      | none => (.ok (), tree.mkdir place name h)
    else (.error .notADirectory, tree)

/-! ## The walks -/

def Beneath (root place : Place) : Prop := root <+: place ∧ place ≠ root

instance (root place : Place) : Decidable (Beneath root place) :=
  inferInstanceAs (Decidable (_ ∧ _))

def ensureBeneathRoot (root candidate : Place) : Except RootedPathError Place :=
  if Beneath root candidate then .ok candidate else .error .escapesRoot

def resolveExisting (root : Place) (relative : LibraryPath) : Except RootedPathError Place := do
  ensureBeneathRoot root
    (← canonicalize host tree "canonicalize existing media path" (root ++ relative.components))

/-- A walk without links: what a component may be depends on whether more follow. -/
def walk (accepts : Bool → Node → Except RootedPathError Unit) (operation : String)
    (root : Place) : Place → List (List Char) → Except RootedPathError Place
  | current, [] => .ok current
  | current, component :: rest => do
    accepts (!rest.isEmpty)
      (← (symlinkMetadata host tree ("inspect " ++ operation) current component).mapError .io)
    let current ← ensureBeneathRoot root
      (← canonicalize host tree ("canonicalize " ++ operation) (current ++ [component]))
    walk accepts operation root current rest

def acceptsDirectory : Bool → Node → Except RootedPathError Unit
  | _, .symlink _ _ => .error .symbolicLinkTarget
  | _, .directory => .ok ()
  | _, _ => .error .parentIsNotDirectory

def acceptsFile : Bool → Node → Except RootedPathError Unit
  | _, .symlink _ _ => .error .symbolicLinkTarget
  | true, .directory => .ok ()
  | true, _ => .error .parentIsNotDirectory
  | false, .file => .ok ()
  | false, _ => .error .targetIsNotFile

def resolveExistingDirectory (root : Place) (relative : LibraryPath) :
    Except RootedPathError Place :=
  walk host tree acceptsDirectory "media directory" root root relative.components

def resolveExistingFileForMutation (root : Place) (relative : LibraryPath) :
    Except RootedPathError Place :=
  walk host tree acceptsFile "media mutation source" root root relative.components

def creationParent (root : Place) (relative : LibraryPath) : Except RootedPathError Place :=
  match relative.parent with
  | some parent => do
    ensureBeneathRoot root
      (← canonicalize host tree "canonicalize media creation parent" (root ++ parent.components))
  | none => .ok root

def resolveForCreation (root : Place) (relative : LibraryPath) : Except RootedPathError Place := do
  let parent ← creationParent host tree root relative
  let place ← (host.locate tree "inspect media creation parent" parent).mapError .io
  match tree.node place with
  | some .directory =>
    match symlinkMetadata host tree "inspect media creation target" parent relative.fileName with
    | .ok (.symlink _ _) => .error .symbolicLinkTarget
    | .ok _ | .error .notFound => ensureBeneathRoot root (parent ++ [relative.fileName])
    | .error kind => .error (.io kind)
  | _ => .error .parentIsNotDirectory

/-- The second half of a step of `ensure_directory`. -/
def verifyComponent (root current : Place) (component : List Char) :
    Except RootedPathError Place := do
  let resolved ← canonicalize host tree "canonicalize media directory" (current ++ [component])
  match ← (symlinkMetadata host tree "verify media directory" current component).mapError .io with
  | .symlink _ _ => .error .symbolicLinkTarget
  | _ => ensureBeneathRoot root resolved

def ensureComponent (root current : Place) (component : List Char) :
    Except RootedPathError Place × Tree :=
  match symlinkMetadata host tree "inspect media directory" current component with
  | .ok (.symlink _ _) => (.error .symbolicLinkTarget, tree)
  | .ok .directory => (verifyComponent host tree root current component, tree)
  | .ok _ => (.error .parentIsNotDirectory, tree)
  | .error .notFound =>
    match createDir host tree current component with
    | (.ok (), tree) | (.error .alreadyExists, tree) =>
      (verifyComponent host tree root current component, tree)
    | (.error kind, tree) => (.error (.io kind), tree)
  | .error kind => (.error (.io kind), tree)

def ensureComponents (tree : Tree) (root : Place) :
    Place → List (List Char) → Except RootedPathError Place × Tree
  | current, [] => (.ok current, tree)
  | current, component :: rest =>
    match ensureComponent host tree root current component with
    | (.ok current, tree) => ensureComponents tree root current rest
    | (.error error, tree) => (.error error, tree)

def ensureDirectory (root : Place) (relative : LibraryPath) :
    Except RootedPathError Place × Tree :=
  ensureComponents host tree root root relative.components

/-! ## Resolution -/

namespace Tree

variable {tree : Tree} {steps : ℕ} {components : List Component} {place front result : Place}

/-- A place that is no link; by the field of the tree there is none on the way either. -/
def Plain (tree : Tree) (place : Place) : Prop :=
  tree.node place ≠ none ∧ ∀ absolute target, tree.node place ≠ some (.symlink absolute target)

theorem plain_directory (h : tree.node place = some .directory) : tree.Plain place := by
  constructor <;> simp [h]

theorem directory_above (h : tree.node place ≠ none) (hfront : front <+: place)
    (hne : front ≠ place) : tree.node front = some .directory := by
  induction place using List.reverseRecOn with
  | nil => exact absurd (List.prefix_nil.mp hfront) hne
  | append_singleton above last ih =>
    have habove := tree.parent _ _ h
    rcases List.prefix_concat_iff.mp hfront with heq | hfront
    · exact absurd heq hne
    · by_cases heq : front = above
      · rwa [heq]
      · exact ih (by rw [habove]; exact Option.some_ne_none _) hfront heq

theorem directory_of_outer (h : tree.node place = some .directory) (hfront : front <+: place) :
    tree.node front = some .directory := by
  by_cases heq : front = place
  · rwa [heq]
  · exact directory_above (by rw [h]; exact Option.some_ne_none _) hfront heq

theorem resolve_plain (hplace : tree.node place = some .directory)
    (h : tree.resolve steps place components = .ok result) : tree.Plain result := by
  induction steps generalizing place components with
  | zero =>
    cases components <;> cases h
    exact plain_directory hplace
  | succ steps ih =>
    unfold resolve at h
    split at h
    · cases h
      exact plain_directory hplace
    · cases h
    · cases ‹_ + 1 = _›
      exact ih (directory_of_outer hplace (List.dropLast_prefix _)) h
    · cases ‹_ + 1 = _›
      split at h
      · cases h
      · next hnode => exact ih hnode h
      · refine ih ?_ h
        split
        · exact directory_of_outer hplace List.nil_prefix
        · exact hplace
      · next node _ hsymlink hnode =>
        split at h
        · cases h
          exact ⟨by simp [hnode], fun absolute target heq =>
            hsymlink absolute target (Option.some.inj (hnode.symm.trans heq))⟩
        · cases h

theorem resolve_names {names : List (List Char)} (h : tree.Plain (place ++ names)) :
    tree.resolve steps place (names.map .name) = .ok (place ++ names) ∨
      tree.resolve steps place (names.map .name) = .error .device := by
  induction names generalizing place steps with
  | nil =>
    rw [List.append_nil]
    exact .inl (by cases steps <;> rfl)
  | cons name rest ih =>
    cases steps with
    | zero => exact .inr rfl
    | succ steps =>
      rw [List.append_cons] at h ⊢
      rw [List.map_cons, resolve]
      by_cases hnil : rest = []
      · rw [hnil, List.append_nil] at h ⊢
        cases hnode : tree.node (place ++ [name]) with
        | none => exact absurd hnode h.1
        | some node =>
          cases node with
          | symlink absolute target => exact absurd hnode (h.2 absolute target)
          | directory => exact .inl (by cases steps <;> rfl)
          | _ => exact .inl rfl
      · rw [directory_above h.1 (List.prefix_append _ _) (by simpa using hnil)]
        exact ih h

end Tree

/-! ## Calls -/

variable {host tree} {operation : String} {root current path result : Place}
  {component : List Char} {node : Node}

theorem locate_plain (operation : String) (hplain : tree.Plain path) :
    host.locate tree operation path = .ok path ∨
      host.locate tree operation path = .error .device := by
  unfold Host.locate
  split
  · exact .inr rfl
  · exact Tree.resolve_names hplain

theorem locate_ok (hplain : tree.Plain path) (h : host.locate tree operation path = .ok result) :
    result = path := by
  rcases locate_plain operation hplain with heq | heq <;> rw [heq] at h <;> cases h
  rfl

theorem canonicalize_ok (hplain : tree.Plain path)
    (h : canonicalize host tree operation path = .ok result) : result = path :=
  locate_ok hplain (mapError_eq_ok.mp h)

theorem canonicalize_plain (hroot : tree.node root = some .directory)
    (h : canonicalize host tree operation path = .ok result) : tree.Plain result := by
  have hlocate := mapError_eq_ok.mp h
  unfold Host.locate at hlocate
  split at hlocate
  · cases hlocate
  · exact Tree.resolve_plain (Tree.directory_of_outer hroot List.nil_prefix) hlocate

theorem symlinkMetadata_folder (hcurrent : tree.node current = some .directory) :
    (∀ node, symlinkMetadata host tree operation current component = .ok node →
      tree.node (current ++ [component]) = some node) ∧
    (symlinkMetadata host tree operation current component = .error .notFound →
      tree.node (current ++ [component]) = none) := by
  unfold symlinkMetadata
  rcases locate_plain operation (Tree.plain_directory hcurrent) with heq | heq <;> rw [heq]
  · simp only [bind, Except.bind, hcurrent]
    cases tree.node (current ++ [component]) with
    | none => exact ⟨fun _ h => (by cases h), fun _ => rfl⟩
    | some node => exact ⟨fun _ h => (by cases h; rfl), fun h => (by cases h)⟩
  · exact ⟨fun _ h => (by cases h), fun h => (by cases h)⟩

theorem ensureBeneathRoot_ok {candidate : Place}
    (h : ensureBeneathRoot root candidate = .ok result) :
    result = candidate ∧ Beneath root candidate := by
  unfold ensureBeneathRoot at h
  split at h
  · next hbeneath => exact ⟨(Except.ok.inj h).symm, hbeneath⟩
  · cases h

/-! ## Walks -/

theorem acceptsDirectory_ok {more : Bool} (h : acceptsDirectory more node = .ok ()) :
    node = if more then .directory else .directory := by
  cases node <;> cases h
  exact (ite_self _).symm

theorem acceptsFile_ok {more : Bool} (h : acceptsFile more node = .ok ()) :
    node = if more then .directory else .file := by
  cases more <;> cases node <;> cases h <;> rfl

theorem walk_ok {accepts : Bool → Node → Except RootedPathError Unit} {last : Node}
    (hlast : ∀ absolute target, last ≠ .symlink absolute target)
    (haccepts : ∀ {more node}, accepts more node = .ok () →
      node = if more then .directory else last)
    {names : List (List Char)} (hcurrent : tree.node current = some .directory)
    (h : walk host tree accepts operation root current names = .ok result) :
    result = current ++ names ∧ (names ≠ [] → tree.node result = some last) := by
  induction names generalizing current with
  | nil =>
    cases h
    exact ⟨(List.append_nil _).symm, fun hne => absurd rfl hne⟩
  | cons name rest ih =>
    unfold walk at h
    obtain ⟨node, hmetadata, hinspected⟩ := bind_eq_ok.mp h
    obtain ⟨_, haccept, haccepted⟩ := bind_eq_ok.mp hinspected
    obtain ⟨resolved, hresolved, hensure⟩ := bind_eq_ok.mp haccepted
    obtain ⟨next, hnext, hwalk⟩ := bind_eq_ok.mp hensure
    have hnode := (symlinkMetadata_folder hcurrent).1 _ (mapError_eq_ok.mp hmetadata)
    rw [haccepts haccept] at hnode
    have hplain : tree.Plain (current ++ [name]) := by
      constructor
      · simp [hnode]
      · intro absolute target heq
        rw [hnode] at heq
        split at heq
        · cases heq
        · exact hlast _ _ (Option.some.inj heq)
    rw [(ensureBeneathRoot_ok hnext).1, canonicalize_ok hplain hresolved] at hwalk
    cases rest with
    | nil =>
      cases hwalk
      exact ⟨rfl, fun _ => hnode⟩
    | cons second others =>
      obtain ⟨hresult, hend⟩ := ih hnode hwalk
      rw [List.append_cons]
      exact ⟨hresult, fun _ => hend (List.cons_ne_nil _ _)⟩

/-! ## Creation of folders -/

/-- Nothing is different but that there are more folders below the root. -/
def Extends (root : Place) (tree tree' : Tree) : Prop :=
  ∀ place, tree'.node place = tree.node place ∨
    Beneath root place ∧ tree.node place = none ∧ tree'.node place = some .directory

theorem Extends.refl (root : Place) (tree : Tree) : Extends root tree tree := fun _ => .inl rfl

theorem Extends.trans {tree' tree'' : Tree} (h : Extends root tree tree')
    (h' : Extends root tree' tree'') : Extends root tree tree'' := by
  intro place
  rcases h' place with hsame | ⟨hbeneath, hnone, hnew⟩
  · rw [hsame]
    exact h place
  · rcases h place with hsame | ⟨-, -, hold⟩
    · exact .inr ⟨hbeneath, hsame ▸ hnone, hnew⟩
    · rw [hnone] at hold
      cases hold

theorem beneath_append {names : List (List Char)} (hroot : root <+: current) (hnames : names ≠ []) :
    Beneath root (current ++ names) := by
  refine ⟨hroot.trans (List.prefix_append _ _), fun heq => ?_⟩
  have hlength := hroot.length_le
  have hpos := List.length_pos_iff.mpr hnames
  rw [← heq, List.length_append] at hlength
  omega

theorem extends_mkdir (hcurrent : tree.node current = some .directory) (hroot : root <+: current)
    (hnone : tree.node (current ++ [component]) = none) :
    Extends root tree (tree.mkdir current component hcurrent) := by
  intro place
  by_cases hplace : place = current ++ [component]
  · subst hplace
    exact .inr ⟨beneath_append hroot (List.cons_ne_nil _ _), hnone, if_pos rfl⟩
  · exact .inl (if_neg hplace)

theorem createDir_folder (hcurrent : tree.node current = some .directory)
    (hnone : tree.node (current ++ [component]) = none) :
    createDir host tree current component = (.error .device, tree) ∨
      createDir host tree current component = (.ok (), tree.mkdir current component hcurrent) := by
  unfold createDir
  rcases locate_plain "create media directory" (Tree.plain_directory hcurrent) with heq | heq
  · rw [heq]
    dsimp only
    rw [dif_pos hcurrent, hnone]
    exact .inr rfl
  · rw [heq]
    exact .inl rfl

theorem verifyComponent_ok (hcurrent : tree.node current = some .directory)
    (hdirectory : tree.node (current ++ [component]) = some .directory)
    (h : verifyComponent host tree root current component = .ok result) :
    result = current ++ [component] := by
  obtain ⟨resolved, hresolved, hverify⟩ := bind_eq_ok.mp h
  obtain ⟨node, hmetadata, hchecked⟩ := bind_eq_ok.mp hverify
  have hnode := (symlinkMetadata_folder hcurrent).1 _ (mapError_eq_ok.mp hmetadata)
  rw [hdirectory] at hnode
  cases hnode
  rw [(ensureBeneathRoot_ok hchecked).1]
  exact canonicalize_ok (Tree.plain_directory hdirectory) hresolved

theorem ensureComponent_ok (hcurrent : tree.node current = some .directory)
    (hroot : root <+: current) :
    let ended := ensureComponent host tree root current component
    Extends root tree ended.2 ∧ ∀ next, ended.1 = .ok next →
      next = current ++ [component] ∧ ended.2.node next = some .directory := by
  unfold ensureComponent
  split
  · exact ⟨.refl _ _, fun _ h => (by cases h)⟩
  · next hmetadata =>
    refine ⟨.refl _ _, fun next hnext => ?_⟩
    have hnode := (symlinkMetadata_folder hcurrent).1 _ hmetadata
    rw [verifyComponent_ok hcurrent hnode hnext]
    exact ⟨rfl, hnode⟩
  · exact ⟨.refl _ _, fun _ h => (by cases h)⟩
  · next hmetadata =>
    have hnone := (symlinkMetadata_folder hcurrent).2 hmetadata
    rcases createDir_folder hcurrent hnone with hcreate | hcreate
    · rw [hcreate]
      exact ⟨.refl _ _, fun _ h => (by cases h)⟩
    · rw [hcreate]
      have hnew : (tree.mkdir current component hcurrent).node (current ++ [component]) =
          some .directory := if_pos rfl
      refine ⟨extends_mkdir hcurrent hroot hnone, fun next hnext => ?_⟩
      rw [verifyComponent_ok (Tree.directory_of_outer hnew (List.prefix_append _ _)) hnew hnext]
      exact ⟨rfl, hnew⟩
  · exact ⟨.refl _ _, fun _ h => (by cases h)⟩

theorem ensureComponents_ok {names : List (List Char)}
    (hcurrent : tree.node current = some .directory) (hroot : root <+: current) :
    let ended := ensureComponents host tree root current names
    Extends root tree ended.2 ∧ ∀ place, ended.1 = .ok place →
      place = current ++ names ∧ ended.2.node place = some .directory := by
  induction names generalizing tree current with
  | nil =>
    refine ⟨.refl _ _, fun place h => ?_⟩
    cases h
    exact ⟨(List.append_nil _).symm, hcurrent⟩
  | cons name rest ih =>
    obtain ⟨hextends, hnext⟩ :=
      @ensureComponent_ok host tree root current name hcurrent hroot
    unfold ensureComponents
    split
    · next next tree' hended =>
      rw [hended] at hextends hnext
      obtain ⟨rfl, hdirectory⟩ := hnext next rfl
      obtain ⟨hextends', hresult⟩ := ih hdirectory (hroot.trans (List.prefix_append _ _))
      rw [List.append_cons current name rest]
      exact ⟨hextends.trans hextends', hresult⟩
    · next error tree' hended =>
      rw [hended] at hextends
      exact ⟨hextends, fun _ h => (by cases h)⟩

/-! ## The five walks -/

/-- The root of a capability, which was opened as a folder. -/
structure Root (tree : Tree) where
  canonical : Place
  isDirectory : tree.node canonical = some .directory

/-- Such a node, with directories only above it: no component is a link. -/
def Straight (tree : Tree) (place : Place) (node : Node) : Prop :=
  tree.node place = some node ∧
    ∀ front, front <+: place → front ≠ place → tree.node front = some .directory

theorem straight_of_node {place : Place} (h : tree.node place = some node) :
    Straight tree place node :=
  ⟨h, fun _ => Tree.directory_above (by rw [h]; exact Option.some_ne_none _)⟩

/-- A name in a folder at or below the root that is not taken by a link. -/
def Creatable (tree : Tree) (root place : Place) (name : List Char) : Prop :=
  ∃ parent, place = parent ++ [name] ∧ root <+: parent ∧ Straight tree parent .directory ∧
    ∀ absolute target, tree.node place ≠ some (.symlink absolute target)

theorem resolveForCreation_ok (root : Root tree) {relative : LibraryPath}
    (h : resolveForCreation host tree root.canonical relative = .ok result) :
    Creatable tree root.canonical result relative.fileName := by
  unfold resolveForCreation at h
  obtain ⟨parent, hparent, hopened⟩ := bind_eq_ok.mp h
  obtain ⟨place, hplace, hchecked⟩ := bind_eq_ok.mp hopened
  have hopen : root.canonical <+: parent ∧ tree.Plain parent := by
    unfold creationParent at hparent
    split at hparent
    · obtain ⟨resolved, hresolved, hensure⟩ := bind_eq_ok.mp hparent
      obtain ⟨rfl, hbeneath⟩ := ensureBeneathRoot_ok hensure
      exact ⟨hbeneath.1, canonicalize_plain root.isDirectory hresolved⟩
    · cases hparent
      exact ⟨List.prefix_refl _, Tree.plain_directory root.isDirectory⟩
  obtain rfl := locate_ok hopen.2 (mapError_eq_ok.mp hplace)
  split at hchecked
  · next hdirectory =>
    have hmetadata := @symlinkMetadata_folder host tree "inspect media creation target" place
      relative.fileName hdirectory
    split at hchecked
    · cases hchecked
    · next node hlink hfound =>
      rw [(ensureBeneathRoot_ok hchecked).1]
      refine ⟨place, rfl, hopen.1, straight_of_node hdirectory, fun absolute target heq => ?_⟩
      rw [hmetadata.1 _ hfound] at heq
      exact hlink absolute target (Option.some.inj heq)
    · next hfound =>
      rw [(ensureBeneathRoot_ok hchecked).1]
      refine ⟨place, rfl, hopen.1, straight_of_node hdirectory, fun absolute target heq => ?_⟩
      rw [hmetadata.2 hfound] at heq
      cases heq
    · cases hchecked
  · cases hchecked

/-- Whatever the links and the failures: reads stay strictly below the root, the walks for
changes give the path itself without a link in it, and only folders below the root are created. -/
theorem paths_confined (host : Host) (tree : Tree) (root : Root tree) (relative : LibraryPath) :
    (∀ place, resolveExisting host tree root.canonical relative = .ok place →
      Beneath root.canonical place ∧
        ∃ node, Straight tree place node ∧ ∀ absolute target, node ≠ .symlink absolute target) ∧
    (∀ place, resolveExistingDirectory host tree root.canonical relative = .ok place →
      place = root.canonical ++ relative.components ∧ Straight tree place .directory) ∧
    (∀ place, resolveExistingFileForMutation host tree root.canonical relative = .ok place →
      place = root.canonical ++ relative.components ∧ Straight tree place .file) ∧
    (∀ place, resolveForCreation host tree root.canonical relative = .ok place →
      Creatable tree root.canonical place relative.fileName) ∧
    (let ended := ensureDirectory host tree root.canonical relative;
      (∀ place, ended.1 = .ok place →
        place = root.canonical ++ relative.components ∧ Straight ended.2 place .directory) ∧
      Extends root.canonical tree ended.2) := by
  have hnames := relative.components_ne_nil
  refine ⟨fun place h => ?_, fun place h => ?_, fun place h => ?_,
    fun _ => resolveForCreation_ok root, ?_⟩
  · obtain ⟨resolved, hresolved, hensure⟩ := bind_eq_ok.mp h
    obtain ⟨rfl, hbeneath⟩ := ensureBeneathRoot_ok hensure
    obtain ⟨hsome, hplain⟩ := canonicalize_plain root.isDirectory hresolved
    obtain ⟨node, hnode⟩ := Option.ne_none_iff_exists'.mp hsome
    exact ⟨hbeneath, node, straight_of_node hnode, fun absolute target heq =>
      hplain absolute target (heq ▸ hnode)⟩
  · obtain ⟨hplace, hnode⟩ := walk_ok (fun _ _ h => by cases h) acceptsDirectory_ok root.isDirectory h
    exact ⟨hplace, straight_of_node (hnode hnames)⟩
  · obtain ⟨hplace, hnode⟩ := walk_ok (fun _ _ h => by cases h) acceptsFile_ok root.isDirectory h
    exact ⟨hplace, straight_of_node (hnode hnames)⟩
  · obtain ⟨hextends, hplace⟩ := @ensureComponents_ok host tree root.canonical root.canonical
      relative.components root.isDirectory (List.prefix_refl _)
    exact ⟨fun place h => ⟨(hplace place h).1, straight_of_node (hplace place h).2⟩, hextends⟩

/-! ## The walks agree -/

theorem resolveExisting_plain {relative : LibraryPath}
    (hplain : tree.Plain (root ++ relative.components)) :
    resolveExisting host tree root relative = .ok (root ++ relative.components) ∨
      resolveExisting host tree root relative = .error (.io .device) := by
  unfold resolveExisting canonicalize
  rcases locate_plain "canonicalize existing media path" hplain with heq | heq <;> rw [heq]
  · exact .inl (if_pos (beneath_append (List.prefix_refl _) relative.components_ne_nil))
  · exact .inr rfl

theorem walk_directories {names : List (List Char)} (hcurrent : tree.node current = some .directory)
    (hroot : root <+: current) (h : tree.node (current ++ names) = some .directory) :
    walk host tree acceptsDirectory operation root current names = .ok (current ++ names) ∨
      walk host tree acceptsDirectory operation root current names = .error (.io .device) := by
  induction names generalizing current with
  | nil =>
    rw [List.append_nil]
    exact .inl rfl
  | cons name rest ih =>
    rw [List.append_cons] at h ⊢
    have hnext := Tree.directory_of_outer h (List.prefix_append _ _)
    unfold walk symlinkMetadata canonicalize
    rcases @locate_plain host tree _ ("inspect " ++ operation) (Tree.plain_directory hcurrent) with
      heq | heq
    · simp only [heq, hcurrent, hnext, acceptsDirectory, bind, Except.bind, Except.mapError, pure,
        Except.pure]
      rcases @locate_plain host tree _ ("canonicalize " ++ operation)
        (Tree.plain_directory hnext) with hat | hat
      · simp only [hat, ensureBeneathRoot, if_pos (beneath_append hroot (List.cons_ne_nil name []))]
        exact ih hnext (hroot.trans (List.prefix_append _ _)) h
      · rw [hat]
        exact .inr rfl
    · rw [heq]
      exact .inr rfl

/-- What a walk without links finds is what a read finds; and a folder that was ensured is found
by the next walk.  Only the system itself can stand in the way. -/
theorem walks_agree (host : Host) (tree : Tree) (root : Root tree) (relative : LibraryPath) :
    (∀ place, resolveExistingDirectory host tree root.canonical relative = .ok place ∨
        resolveExistingFileForMutation host tree root.canonical relative = .ok place →
      resolveExisting host tree root.canonical relative = .ok place ∨
        resolveExisting host tree root.canonical relative = .error (.io .device)) ∧
    ∀ place tree', ensureDirectory host tree root.canonical relative = (.ok place, tree') →
      resolveExistingDirectory host tree' root.canonical relative = .ok place ∨
        resolveExistingDirectory host tree' root.canonical relative = .error (.io .device) := by
  constructor
  · rintro place (h | h)
    · obtain ⟨rfl, hnode⟩ := walk_ok (fun _ _ h => by cases h) acceptsDirectory_ok root.isDirectory h
      exact resolveExisting_plain (Tree.plain_directory (hnode relative.components_ne_nil))
    · obtain ⟨rfl, hnode⟩ := walk_ok (fun _ _ h => by cases h) acceptsFile_ok root.isDirectory h
      have hfile := hnode relative.components_ne_nil
      exact resolveExisting_plain (by constructor <;> simp [hfile])
  · intro place tree' h
    unfold ensureDirectory at h
    obtain ⟨-, hplace⟩ := @ensureComponents_ok host tree root.canonical root.canonical
      relative.components root.isDirectory (List.prefix_refl _)
    rw [h] at hplace
    obtain ⟨rfl, hdirectory⟩ := hplace place rfl
    exact walk_directories (Tree.directory_of_outer hdirectory (List.prefix_append _ _))
      (List.prefix_refl _) hdirectory

end MusicServer.PathConfinement
