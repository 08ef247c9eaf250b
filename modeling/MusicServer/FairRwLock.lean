/-
# A fair lock for readers and a writer

A lock that serves its queue in order: whoever asks goes to the end of the queue, and the queue
is served from the front as far as the guards that are held allow.  So a waiting writer blocks
every later reader.  A holder may have several read guards.

* `Settled`: the front of the queue cannot be served; every operation leaves the lock so.
* `serve_eq_self`: serving a settled lock does nothing, whatever is put behind its queue.
* `nested_acquire_iff`: a holder comes to wait behind a writer that waits for it exactly when
  one of them asks so (`Nests`).
-/
import Mathlib.Data.List.Basic
import Mathlib.Data.List.Nodup

namespace FairRwLock

inductive Mode where
  | read
  | write
  deriving DecidableEq

/-- The guards of a lock, one entry of `readers` for each read guard, and who waits. -/
structure Lock (τ : Type) where
  readers : List τ
  writer : Option τ
  queue : List (τ × Mode)
  deriving DecidableEq

variable {τ : Type}

namespace Lock

def free : Lock τ := ⟨[], none, []⟩

/-! ## Operations -/

def serve (readers : List τ) (writer : Option τ) : List (τ × Mode) → Lock τ
  | [] => ⟨readers, writer, []⟩
  | (holder, .read) :: queue =>
    if writer.isNone then serve (holder :: readers) none queue
    else ⟨readers, writer, (holder, .read) :: queue⟩
  | (holder, .write) :: queue =>
    if writer.isNone && readers.isEmpty then ⟨[], some holder, queue⟩
    else ⟨readers, writer, (holder, .write) :: queue⟩

def acquire (lock : Lock τ) (holder : τ) (mode : Mode) : Lock τ :=
  serve lock.readers lock.writer (lock.queue ++ [(holder, mode)])

def releaseRead [DecidableEq τ] (lock : Lock τ) (holder : τ) : Lock τ :=
  serve (lock.readers.erase holder) lock.writer lock.queue

def releaseWrite (lock : Lock τ) : Lock τ := serve lock.readers none lock.queue

/-- Everything a holder has or waits for is dropped. -/
def abandon [DecidableEq τ] (lock : Lock τ) (holder : τ) : Lock τ :=
  serve (lock.readers.filter (· ≠ holder)) (lock.writer.filter (· ≠ holder))
    (lock.queue.filter (·.1 ≠ holder))

/-! ## Serving -/

def Settled (lock : Lock τ) : Prop :=
  match lock.queue with
  | [] => True
  | (_, .read) :: _ => lock.writer ≠ none
  | (_, .write) :: _ => lock.writer ≠ none ∨ lock.readers ≠ []

theorem settled_serve (readers : List τ) (writer : Option τ) (queue : List (τ × Mode)) :
    (serve readers writer queue).Settled := by
  induction queue generalizing readers writer with
  | nil => trivial
  | cons head queue ih =>
    obtain ⟨holder, mode⟩ := head
    cases mode with
    | read =>
      unfold serve
      split
      · exact ih _ _
      · next hwriter => simpa [Settled, Option.isNone_iff_eq_none] using hwriter
    | write =>
      unfold serve
      split
      · next hfree =>
        unfold Settled
        dsimp only
        cases queue with
        | nil => trivial
        | cons next queue =>
          obtain ⟨other, mode⟩ := next
          cases mode <;> simp
      · next hheld =>
        have hheld' : writer.isNone = true → readers.isEmpty ≠ true := by simpa using hheld
        unfold Settled
        dsimp only
        by_cases hwriter : writer = none
        · exact .inr fun hreaders => hheld' (by simp [hwriter]) (by simp [hreaders])
        · exact .inl hwriter

variable {lock : Lock τ}

theorem serve_eq_self (h : lock.Settled) (hne : lock.queue ≠ []) (behind : List (τ × Mode)) :
    serve lock.readers lock.writer (lock.queue ++ behind) =
      { lock with queue := lock.queue ++ behind } := by
  obtain ⟨readers, writer, queue⟩ := lock
  cases queue with
  | nil => exact absurd rfl hne
  | cons head queue =>
    obtain ⟨holder, mode⟩ := head
    cases mode with
    | read =>
      have hwriter : ¬ writer.isNone := by simpa [Settled, Option.isNone_iff_eq_none] using h
      simp [serve, hwriter]
    | write =>
      have hheld : ¬ (writer.isNone && readers.isEmpty) := by
        have hheld : writer ≠ none ∨ readers ≠ [] := h
        rcases hheld with hwriter | hreaders
        · simp [Option.isNone_iff_eq_none, hwriter]
        · simp [hreaders]
      simp only [List.cons_append, serve]
      rw [if_neg hheld]

theorem serve_split (readers : List τ) (writer : Option τ) (queue : List (τ × Mode)) :
    ∃ served, queue = served ++ (serve readers writer queue).queue ∧
      ∀ holder ∈ (serve readers writer queue).readers,
        holder ∈ readers ∨ (holder, .read) ∈ served := by
  induction queue generalizing readers writer with
  | nil => exact ⟨[], rfl, fun holder h => .inl h⟩
  | cons head queue ih =>
    obtain ⟨first, mode⟩ := head
    cases mode with
    | read =>
      unfold serve
      split
      · obtain ⟨served, hqueue, hreaders⟩ := ih (first :: readers) none
        refine ⟨(first, .read) :: served, by rw [List.cons_append, ← hqueue], fun holder h => ?_⟩
        rcases hreaders holder h with h | h
        · rcases List.mem_cons.mp h with rfl | h
          · exact .inr List.mem_cons_self
          · exact .inl h
        · exact .inr (List.mem_cons_of_mem _ h)
      · exact ⟨[], rfl, fun holder h => .inl h⟩
    | write =>
      unfold serve
      split
      · exact ⟨[(first, .write)], rfl, fun holder h => by cases h⟩
      · exact ⟨[], rfl, fun holder h => .inl h⟩

/-! ## Every operation settles -/

theorem settled_acquire (lock : Lock τ) (holder : τ) (mode : Mode) :
    (lock.acquire holder mode).Settled := settled_serve _ _ _

theorem acquire_of_waiting (h : lock.Settled) (hne : lock.queue ≠ []) (holder : τ) (mode : Mode) :
    lock.acquire holder mode = { lock with queue := lock.queue ++ [(holder, mode)] } :=
  serve_eq_self h hne [(holder, mode)]

theorem settled_releaseRead [DecidableEq τ] (lock : Lock τ) (holder : τ) :
    (lock.releaseRead holder).Settled := settled_serve _ _ _

theorem settled_releaseWrite (lock : Lock τ) : lock.releaseWrite.Settled := settled_serve _ _ _

theorem settled_abandon [DecidableEq τ] (lock : Lock τ) (holder : τ) :
    (lock.abandon holder).Settled := settled_serve _ _ _

/-! ## Who holds keeps what it holds -/

def Exclusive (lock : Lock τ) : Prop := lock.writer ≠ none → lock.readers = []

variable {readers : List τ}

theorem exclusive_serve {writer : Option τ} (h : writer ≠ none → readers = [])
    (queue : List (τ × Mode)) : (serve readers writer queue).Exclusive := by
  induction queue generalizing readers writer with
  | nil => exact h
  | cons head queue ih =>
    obtain ⟨first, mode⟩ := head
    cases mode with
    | read =>
      unfold serve
      split
      · exact ih fun hnone => absurd rfl hnone
      · exact h
    | write =>
      unfold serve
      split
      · exact fun _ => rfl
      · exact h

variable {holder : τ}

theorem writer_serve {writer : Option τ} (h : writer = some holder) (queue : List (τ × Mode)) :
    (serve readers writer queue).writer = some holder := by
  subst h
  cases queue with
  | nil => rfl
  | cons head queue =>
    obtain ⟨first, mode⟩ := head
    cases mode <;> rfl

theorem mem_readers_serve (h : holder ∈ readers) (writer : Option τ) (queue : List (τ × Mode)) :
    holder ∈ (serve readers writer queue).readers := by
  induction queue generalizing readers writer with
  | nil => exact h
  | cons head queue ih =>
    obtain ⟨first, mode⟩ := head
    cases mode with
    | read =>
      unfold serve
      split
      · exact ih (List.mem_cons_of_mem first h) none
      · exact h
    | write =>
      unfold serve
      split
      · next hfree =>
        have hempty : readers = [] := by simpa using (Bool.and_eq_true_iff.mp hfree).2
        rw [hempty] at h
        cases h
      · exact h

/-- A change of the lock by one leaves what the others hold. -/
structure Keeps (lock lock' : Lock τ) (holder : τ) : Prop where
  exclusive : lock'.Exclusive
  readers : ∀ other, other ≠ holder → other ∈ lock.readers → other ∈ lock'.readers
  writer : ∀ other, other ≠ holder → lock.writer = some other → lock'.writer = some other

theorem keeps_self (h : lock.Exclusive) (holder : τ) : lock.Keeps lock holder :=
  ⟨h, fun _ _ hmem => hmem, fun _ _ hwriter => hwriter⟩

theorem keeps_acquire (h : lock.Exclusive) (holder : τ) (mode : Mode) :
    lock.Keeps (lock.acquire holder mode) holder :=
  ⟨exclusive_serve h _, fun _ _ hmem => mem_readers_serve hmem _ _,
    fun _ _ hwriter => writer_serve hwriter _⟩

theorem keeps_abandon [DecidableEq τ] (h : lock.Exclusive) (holder : τ) :
    lock.Keeps (lock.abandon holder) holder := by
  refine ⟨exclusive_serve (fun hwriter => ?_) _, fun other hne hmem => ?_,
    fun other hne hwriter => ?_⟩
  · have hnone : lock.writer ≠ none := by
      intro hnone
      rw [hnone] at hwriter
      exact hwriter rfl
    rw [h hnone]
    rfl
  · exact mem_readers_serve (List.mem_filter.mpr ⟨hmem, by simpa using hne⟩) _ _
  · refine writer_serve ?_ _
    rw [hwriter]
    simpa using hne

/-! ## Each waits once -/

/-- Each holder waits for one guard at most. -/
def WaitsOnce (lock : Lock τ) : Prop := (lock.queue.map Prod.fst).Nodup

theorem waitsOnce_serve (readers : List τ) (writer : Option τ) {queue : List (τ × Mode)}
    (h : (queue.map Prod.fst).Nodup) : (serve readers writer queue).WaitsOnce := by
  obtain ⟨served, heq, -⟩ := serve_split readers writer queue
  rw [heq, List.map_append, List.nodup_append] at h
  exact h.2.1

theorem waitsOnce_acquire (h : lock.WaitsOnce) (hnew : holder ∉ lock.queue.map Prod.fst)
    (mode : Mode) :
    (lock.acquire holder mode).WaitsOnce := by
  refine waitsOnce_serve _ _ ?_
  rw [List.map_append]
  exact h.append (List.nodup_singleton holder) (by simpa using hnew)

theorem waitsOnce_releaseRead [DecidableEq τ] (h : lock.WaitsOnce) (holder : τ) :
    (lock.releaseRead holder).WaitsOnce := waitsOnce_serve _ _ h

theorem waitsOnce_releaseWrite (h : lock.WaitsOnce) :
    lock.releaseWrite.WaitsOnce := waitsOnce_serve _ _ h

theorem waitsOnce_abandon [DecidableEq τ] (h : lock.WaitsOnce) (holder : τ) :
    (lock.abandon holder).WaitsOnce :=
  waitsOnce_serve _ _ ((List.filter_sublist.map Prod.fst).nodup h)

/-! ## Counting guards -/

section Guards

variable [DecidableEq τ]

/-- The read guards a holder has or waits for. -/
def guards (lock : Lock τ) (holder : τ) : ℕ :=
  lock.readers.count holder + lock.queue.count (holder, .read)

theorem guards_serve (readers : List τ) (writer : Option τ) (queue : List (τ × Mode))
    (holder : τ) :
    (serve readers writer queue).guards holder =
      readers.count holder + queue.count (holder, .read) := by
  induction queue generalizing readers writer with
  | nil => rfl
  | cons head queue ih =>
    obtain ⟨first, mode⟩ := head
    cases mode with
    | read =>
      unfold serve
      split
      · rw [ih, List.count_cons, List.count_cons]
        have hsame : ((first, Mode.read) == (holder, Mode.read)) = (first == holder) := by
          rw [Bool.eq_iff_iff]
          simp
        rw [hsame]
        omega
      · rfl
    | write =>
      unfold serve
      split
      · next hfree =>
        have hreaders : readers = [] := by
          simpa using (Bool.and_eq_true_iff.mp hfree).2
        have hskip : ((first, Mode.write) == (holder, Mode.read)) = false := by simp
        rw [hreaders, List.count_cons, hskip]
        simp [guards]
      · rfl

theorem guards_acquire_read (lock : Lock τ) (holder other : τ) :
    (lock.acquire holder .read).guards other =
      lock.guards other + if holder = other then 1 else 0 := by
  unfold acquire
  rw [guards_serve, List.count_append, List.count_singleton]
  by_cases h : holder = other
  · subst h
    simp [guards]
    omega
  · simp [guards, h]

theorem guards_acquire_write (lock : Lock τ) (holder other : τ) :
    (lock.acquire holder .write).guards other = lock.guards other := by
  unfold acquire
  rw [guards_serve, List.count_append, List.count_singleton]
  simp [guards]

theorem guards_releaseRead (lock : Lock τ) (holder other : τ) :
    (lock.releaseRead holder).guards other ≤ lock.guards other := by
  unfold releaseRead
  rw [guards_serve]
  have hle : (lock.readers.erase holder).count other ≤ lock.readers.count other :=
    (List.erase_sublist).count_le other
  unfold guards
  omega

theorem guards_releaseRead_self {lock : Lock τ} {holder : τ} (hone : lock.guards holder ≤ 1)
    (hwaits : (holder, .read) ∉ lock.queue) : (lock.releaseRead holder).guards holder = 0 := by
  unfold releaseRead
  rw [guards_serve, List.count_erase_self, List.count_eq_zero.mpr hwaits]
  unfold guards at hone
  omega

theorem guards_releaseWrite (lock : Lock τ) (other : τ) :
    lock.releaseWrite.guards other = lock.guards other := guards_serve _ _ _ _

theorem guards_abandon (lock : Lock τ) (holder other : τ) :
    (lock.abandon holder).guards other ≤ lock.guards other := by
  unfold abandon
  rw [guards_serve]
  have hreaders := (List.filter_sublist (p := (· ≠ holder)) (l := lock.readers)).count_le other
  have hqueue := (List.filter_sublist (p := (·.1 ≠ holder)) (l := lock.queue)).count_le
    (other, Mode.read)
  unfold guards
  omega

theorem guards_abandon_self (lock : Lock τ) (holder : τ) :
    (lock.abandon holder).guards holder = 0 := by
  unfold abandon
  rw [guards_serve]
  have hreaders : holder ∉ lock.readers.filter (· ≠ holder) := by simp
  have hqueue : (holder, Mode.read) ∉ lock.queue.filter (·.1 ≠ holder) := by simp
  rw [List.count_eq_zero.mpr hreaders, List.count_eq_zero.mpr hqueue]

theorem one_lt_guards {lock : Lock τ} {holder : τ} (hheld : holder ∈ lock.readers)
    (hwaits : (holder, .read) ∈ lock.queue) : 1 < lock.guards holder := by
  have hreaders := List.count_pos_iff.mpr hheld
  have hqueue := List.count_pos_iff.mpr hwaits
  unfold guards
  omega

end Guards

/-! ## A holder that waits behind a writer -/

/-- Someone waits to write for one who holds a read guard and waits for another. -/
def Nested (waits : τ → Prop) (lock : Lock τ) : Prop :=
  ∃ writer reader, waits writer ∧ (writer, .write) ∈ lock.queue ∧
    reader ∈ lock.readers ∧ (reader, .read) ∈ lock.queue

/-- Who asks so closes such a circle: for a further read guard behind a writer, or for the
lock while a holder waits. -/
def Nests (waits : τ → Prop) (lock : Lock τ) (holder : τ) : Mode → Prop
  | .read => holder ∈ lock.readers ∧ ∃ writer, waits writer ∧ (writer, .write) ∈ lock.queue
  | .write => waits holder ∧ ∃ reader ∈ lock.readers, (reader, .read) ∈ lock.queue

variable {waits : τ → Prop}

theorem Nested.of_serve {writer : Option τ} {queue : List (τ × Mode)} (honce : lock.WaitsOnce)
    (hreaders : ∀ holder ∈ readers, holder ∈ lock.readers) (hqueue : queue.Sublist lock.queue)
    (h : Nested waits (serve readers writer queue)) : Nested waits lock := by
  obtain ⟨w, r, hwaits, hw, hr, hrq⟩ := h
  obtain ⟨served, heq, hserved⟩ := serve_split readers writer queue
  have hsub : ∀ entry ∈ (serve readers writer queue).queue, entry ∈ lock.queue := by
    intro entry hentry
    refine hqueue.subset ?_
    rw [heq]
    exact List.mem_append_right _ hentry
  rcases hserved r hr with hheld | hfront
  · exact ⟨w, r, hwaits, hsub _ hw, hreaders r hheld, hsub _ hrq⟩
  · have hnodup : (queue.map Prod.fst).Nodup := (hqueue.map Prod.fst).nodup honce
    rw [heq, List.map_append, List.nodup_append] at hnodup
    exact absurd rfl (hnodup.2.2 r (List.mem_map_of_mem hfront) r (List.mem_map_of_mem hrq))

theorem Nested.of_releaseRead [DecidableEq τ] (honce : lock.WaitsOnce)
    (h : Nested waits (lock.releaseRead holder)) : Nested waits lock :=
  h.of_serve honce (fun _ => List.mem_of_mem_erase) (List.Sublist.refl _)

theorem Nested.of_releaseWrite (honce : lock.WaitsOnce) (h : Nested waits lock.releaseWrite) :
    Nested waits lock :=
  h.of_serve honce (fun _ => id) (List.Sublist.refl _)

theorem Nested.of_abandon [DecidableEq τ] (honce : lock.WaitsOnce)
    (h : Nested waits (lock.abandon holder)) : Nested waits lock :=
  h.of_serve honce (fun _ hmem => List.mem_of_mem_filter hmem) List.filter_sublist

theorem not_nested_acquire (hempty : lock.queue = []) (holder : τ) (mode : Mode) :
    ¬ Nested waits (lock.acquire holder mode) := by
  rintro ⟨w, r, -, hw, -, hr⟩
  obtain ⟨served, heq, -⟩ := serve_split lock.readers lock.writer (lock.queue ++ [(holder, mode)])
  have hone : ∀ entry ∈ (lock.acquire holder mode).queue, entry = (holder, mode) := by
    intro entry hentry
    have hmem : entry ∈ lock.queue ++ [(holder, mode)] := by
      rw [heq]
      exact List.mem_append_right _ hentry
    simpa [hempty] using hmem
  have hmodes := (congrArg Prod.snd (hone _ hw)).trans (congrArg Prod.snd (hone _ hr)).symm
  cases hmodes

theorem nested_acquire_iff (hsettled : lock.Settled) (hnot : ¬ Nested waits lock) (holder : τ)
    (mode : Mode) :
    Nested waits (lock.acquire holder mode) ↔ Nests waits lock holder mode := by
  by_cases hempty : lock.queue = []
  · refine ⟨fun h => absurd h (not_nested_acquire hempty holder mode), fun h => ?_⟩
    cases mode with
    | read =>
      obtain ⟨-, w, -, hw⟩ := h
      rw [hempty] at hw
      cases hw
    | write =>
      obtain ⟨-, r, -, hr⟩ := h
      rw [hempty] at hr
      cases hr
  rw [acquire_of_waiting hsettled hempty]
  constructor
  · rintro ⟨w, r, hwaits, hw, hr, hrq⟩
    have hw' : (w, Mode.write) ∈ lock.queue ∨ (w, Mode.write) = (holder, mode) := by
      simpa using hw
    have hr' : (r, Mode.read) ∈ lock.queue ∨ (r, Mode.read) = (holder, mode) := by
      simpa using hrq
    rcases hw' with hw' | hw'
    · rcases hr' with hr' | hr'
      · exact absurd ⟨w, r, hwaits, hw', hr, hr'⟩ hnot
      · obtain ⟨rfl, rfl⟩ := Prod.mk.inj hr'
        exact ⟨hr, w, hwaits, hw'⟩
    · obtain ⟨rfl, rfl⟩ := Prod.mk.inj hw'
      rcases hr' with hr' | hr'
      · exact ⟨hwaits, r, hr, hr'⟩
      · cases (Prod.mk.inj hr').2
  · intro h
    cases mode with
    | read =>
      obtain ⟨hr, w, hwaits, hw⟩ := h
      exact ⟨w, holder, hwaits, List.mem_append_left _ hw, hr, by simp⟩
    | write =>
      obtain ⟨hwaits, r, hr, hrq⟩ := h
      exact ⟨holder, r, hwaits, by simp, hr, List.mem_append_left _ hrq⟩

end Lock

end FairRwLock
