/-
# The search for a column

While a row is placed the potentials stay below the costs, they are met by the rows in columns and
by the way to every column of the tree, and `min` is the least reduced cost of a column from the
tree (`Ready`, `Grown`).  One turn of the loop takes one more column into the tree
(`Ready.turn`), so the loop ends with a free one (`Ready.run`).
-/
import MusicServer.AlternatingTree

namespace MusicServer.Album

/-- The cost of a row in a column, both counted from one. -/
def cell (costs : List (List ℤ)) (row column : ℕ) : ℤ := entry costs (row - 1) (column - 1)

/-! ## Potentials -/

/-- Potentials of the rows up to `rows` and of the columns up to `m`. -/
structure Balanced (cost : ℕ → ℕ → ℤ) (m rows : ℕ) (u v : ℕ → ℤ) (p : ℕ → ℕ) : Prop where
  below : ∀ r, 1 ≤ r → r ≤ rows → ∀ j, 1 ≤ j → j ≤ m → u r + v j ≤ cost r j
  nonpos : ∀ j, 1 ≤ j → j ≤ m → v j ≤ 0
  tight : Tight cost u v m 0 p
  free : ∀ j, 1 ≤ j → j ≤ m → p j = 0 → v j = 0

/-- What a column costs more than the potentials from the row of another one. -/
def reduced (cost : ℕ → ℕ → ℤ) (u v : ℕ → ℤ) (p : ℕ → ℕ) (c j : ℕ) : ℤ :=
  cost (p c) j - u (p c) - v j

def raise (tree : List ℕ) (p : ℕ → ℕ) (delta : ℤ) (u : ℕ → ℤ) (r : ℕ) : ℤ :=
  if r ∈ tree.map p then u r + delta else u r

def lower (tree : List ℕ) (delta : ℤ) (v : ℕ → ℤ) (j : ℕ) : ℤ :=
  if j ∈ tree then v j - delta else v j

section Potentials

variable {cost : ℕ → ℕ → ℤ} {m rows i : ℕ} {u v : ℕ → ℤ} {p : ℕ → ℕ} {tree : List ℕ} {delta C : ℤ}

theorem raise_mem {c : ℕ} (hc : c ∈ tree) : raise tree p delta u (p c) = u (p c) + delta :=
  if_pos (List.mem_map_of_mem hc)

theorem lower_mem {j : ℕ} (hj : j ∈ tree) : lower tree delta v j = v j - delta := if_pos hj

theorem lower_not_mem {j : ℕ} (hj : j ∉ tree) : lower tree delta v j = v j := if_neg hj

theorem raise_not_mem (hmatched : Matched m i (m + 1) p) (hwithin : ∀ c ∈ tree, c ≤ m) {j : ℕ}
    (hj : j ≤ m) (hout : j ∉ tree) (hp : p j ≠ 0) : raise tree p delta u (p j) = u (p j) := by
  refine if_neg fun hmem => hout ?_
  obtain ⟨c, hc, hsame⟩ := List.mem_map.mp hmem
  have hcm := hwithin c hc
  have heq := hmatched.once j hj (by omega) c hcm (by omega) hp hsame.symm
  exact heq ▸ hc

theorem reduced_shift_mem {c j : ℕ} (hc : c ∈ tree) (hj : j ∉ tree) :
    reduced cost (raise tree p delta u) (lower tree delta v) p c j =
      reduced cost u v p c j - delta := by
  unfold reduced
  rw [raise_mem hc, lower_not_mem hj]
  omega

theorem Balanced.shift (h : Balanced cost m rows u v p) (hmatched : Matched m i (m + 1) p)
    (hwithin : ∀ c ∈ tree, c ≤ m) (hrows : ∀ r, r ≤ i → r ≤ rows ∨ r ∈ tree.map p)
    (hplaced : ∀ c ∈ tree, p c ≠ 0)
    (hdelta : ∀ c ∈ tree, ∀ j, 1 ≤ j → j ≤ m → j ∉ tree → delta ≤ reduced cost u v p c j)
    (hinner : ∀ j ∈ tree, 1 ≤ j → 0 ≤ delta ∧ rows = i) :
    Balanced cost m i (raise tree p delta u) (lower tree delta v) p := by
  refine ⟨fun r hr hri j hj hjm => ?_, fun j hj hjm => ?_, fun j hj hjm _ hp => ?_,
    fun j hj hjm hp => ?_⟩
  · by_cases hjt : j ∈ tree
    · obtain ⟨hpos, rfl⟩ := hinner j hjt hj
      have hold := h.below r hr hri j hj hjm
      rw [lower_mem hjt]
      unfold raise
      split <;> omega
    · rw [lower_not_mem hjt]
      by_cases hrt : r ∈ tree.map p
      · obtain ⟨c, hc, rfl⟩ := List.mem_map.mp hrt
        have hleast := hdelta c hc j hj hjm hjt
        unfold reduced at hleast
        rw [raise_mem hc]
        omega
      · have hold := h.below r hr ((hrows r hri).resolve_right hrt) j hj hjm
        unfold raise
        rwa [if_neg hrt]
  · have hold := h.nonpos j hj hjm
    by_cases hjt : j ∈ tree
    · have hpos := (hinner j hjt hj).1
      rw [lower_mem hjt]
      omega
    · rwa [lower_not_mem hjt]
  · have hold := h.tight j hj hjm (by omega) hp
    by_cases hjt : j ∈ tree
    · rw [raise_mem hjt, lower_mem hjt]
      omega
    · rwa [raise_not_mem hmatched hwithin hjm hjt hp, lower_not_mem hjt]
  · have hjt : j ∉ tree := fun hjt => hplaced j hjt hp
    rw [lower_not_mem hjt]
    exact h.free j hj hjm hp

theorem Balanced.bounds (h : Balanced cost m rows u v p) (hmatched : Matched m i (m + 1) p)
    (hroot : p 0 = i) (hi : 1 ≤ i) (him : i ≤ m) (hcost : ∀ r j, -C ≤ cost r j ∧ cost r j ≤ C)
    (hfloor : -C ≤ u i) (hrows : ∀ r, r ≤ i → r ≤ rows ∨ u r ≤ C) :
    (∀ r, 1 ≤ r → r ≤ i → -C ≤ u r ∧ u r ≤ C) ∧
      ∀ j, 1 ≤ j → j ≤ m → -2 * C ≤ v j ∧ v j ≤ 0 := by
  have hu : ∀ r, 1 ≤ r → r ≤ i → -C ≤ u r ∧ u r ≤ C := by
    intro r hr hri
    constructor
    · by_cases hlast : r = i
      · rwa [hlast]
      · obtain ⟨j, hj, -, rfl⟩ := hmatched.covers r hr hri
        have hpos : 1 ≤ j := by
          by_contra hzero
          obtain rfl : j = 0 := by omega
          exact hlast hroot
        have htight := h.tight j hpos hj (by omega) (by omega)
        have hnonpos := h.nonpos j hpos hj
        have hlow := (hcost (p j) j).1
        omega
    · rcases hrows r hri with hold | hsmall
      · -- A free column has no potential.
        obtain ⟨j, hj, hjm, hp⟩ := hmatched.exists_free him (by omega)
        have hbelow := h.below r hr hold j hj hjm
        have hfree := h.free j hj hjm hp
        have hhigh := (hcost r j).2
        omega
      · exact hsmall
  refine ⟨hu, fun j hj hjm => ⟨?_, h.nonpos j hj hjm⟩⟩
  have hC := hcost 0 0
  by_cases hp : p j = 0
  · rw [h.free j hj hjm hp]
    omega
  · have htight := h.tight j hj hjm (by omega) hp
    have hrow := hu (p j) (Nat.pos_of_ne_zero hp) (hmatched.bounded j hjm (by omega))
    have hlow := (hcost (p j) j).1
    omega

end Potentials

/-! ## One turn -/

/-- The rows in columns, and the way from the columns of the tree to column zero. -/
structure Rooted (cost : ℕ → ℕ → ℤ) (C base : ℤ) (m i : ℕ) (tree : List ℕ) (search : Search) :
    Prop where
  chain : Tree search.way tree
  within : ∀ j ∈ tree, j ≤ m
  placed : ∀ j ∈ tree, search.p j ≠ 0
  matched : Matched m i (m + 1) search.p
  root : search.p 0 = i
  links : ∀ j ∈ tree, j ≠ 0 → reduced cost search.u search.v search.p (search.way j) j = 0
  floor : -C ≤ search.u i
  origin : search.v 0 + search.u i = base
  later : ∀ r, i < r → search.u r = 0

/-- Every column outside the tree knows the cheapest way into it. -/
def Reaches (cost : ℕ → ℕ → ℤ) (m : ℕ) (tree : List ℕ) (u v : ℕ → ℤ) (p way : ℕ → ℕ)
    (min : ℕ → ℤ) : Prop :=
  ∀ j, 1 ≤ j → j ≤ m → j ∉ tree → way j ∈ tree ∧ min j = reduced cost u v p (way j) j ∧
    ∀ c ∈ tree, min j ≤ reduced cost u v p c j

/-- Before a turn the columns in `tree` are used, and `j0` comes next. -/
structure Ready (cost : ℕ → ℕ → ℤ) (C base : ℤ) (m i : ℕ) (tree : List ℕ) (search : Search) :
    Prop extends Rooted cost C base m i (search.j0 :: tree) search where
  used : ∀ j, search.used j = true ↔ j ∈ tree
  begun : tree = [] → search.u i = 0 ∧ Balanced cost m (i - 1) search.u search.v search.p ∧
    ∀ j, search.min j = i64Max
  grown : tree ≠ [] → Balanced cost m i search.u search.v search.p ∧
    Reaches cost m tree search.u search.v search.p search.way search.min

/-- After a turn `j0` is outside the tree, at no reduced cost. -/
structure Grown (cost : ℕ → ℕ → ℤ) (C base : ℤ) (m i : ℕ) (tree : List ℕ) (search : Search) :
    Prop extends Rooted cost C base m i tree search where
  used : ∀ j, search.used j = true ↔ j ∈ tree
  balanced : Balanced cost m i search.u search.v search.p
  reaches : Reaches cost m tree search.u search.v search.p search.way search.min
  next : (1 ≤ search.j0 ∧ search.j0 ≤ m) ∧ search.j0 ∉ tree ∧ search.min search.j0 = 0

structure Swept (cost : ℕ → ℕ → ℤ) (m : ℕ) (tree : List ℕ) (search : Search) (scan : Scan) :
    Prop where
  reaches : Reaches cost m tree search.u search.v search.p scan.way scan.min
  way : ∀ j ∈ tree, scan.way j = search.way j
  best : (1 ≤ scan.j1 ∧ scan.j1 ≤ m) ∧ scan.j1 ∉ tree ∧ scan.delta = scan.min scan.j1
  least : ∀ j, 1 ≤ j → j ≤ m → j ∉ tree → scan.delta ≤ scan.min j

section Turn

variable {costs : List (List ℤ)} {C base : ℤ} {m i : ℕ} {tree : List ℕ} {search : Search}

theorem Grown.ready (h : Grown (cell costs) C base m i tree search)
    (hplaced : search.p search.j0 ≠ 0) : Ready (cell costs) C base m i tree search := by
  obtain ⟨⟨hlow, hhigh⟩, hout, hzero⟩ := h.next
  obtain ⟨hway, hmin, -⟩ := h.reaches search.j0 hlow hhigh hout
  refine ⟨⟨h.chain.node hout hway, ?_, ?_, h.matched, h.root, ?_, h.floor, h.origin, h.later⟩,
    h.used, fun hnil => ?_, fun _ => ⟨h.balanced, h.reaches⟩⟩
  · rintro j (_ | ⟨_, hj⟩)
    · exact hhigh
    · exact h.within j hj
  · rintro j (_ | ⟨_, hj⟩)
    · exact hplaced
    · exact h.placed j hj
  · rintro j (_ | ⟨_, hj⟩)
    · exact fun _ => hmin.symm.trans hzero
    · exact h.links j hj
  · rw [hnil] at hway
    exact absurd hway List.not_mem_nil

variable (hcost : ∀ r j, -C ≤ cell costs r j ∧ cell costs r j ≤ C) (hroom : 4 * C < i64Max)
  (hi : 1 ≤ i) (him : i ≤ m)

include hcost hi him in
theorem Ready.bounds (h : Ready (cell costs) C base m i tree search) :
    (∀ r, 1 ≤ r → r ≤ i → -C ≤ search.u r ∧ search.u r ≤ C) ∧
      ∀ j, 1 ≤ j → j ≤ m → -2 * C ≤ search.v j ∧ search.v j ≤ 0 := by
  by_cases htree : tree = []
  · obtain ⟨hzero, hbalanced, -⟩ := h.begun htree
    refine hbalanced.bounds h.matched h.root hi him hcost h.floor fun r hr => ?_
    by_cases hlast : r = i
    · have hC := hcost 0 0
      rw [hlast, hzero]
      omega
    · omega
  · exact (h.grown htree).1.bounds h.matched h.root hi him hcost h.floor fun r hr => .inl hr

include hcost hi him in
theorem Ready.reduced_bounds (h : Ready (cell costs) C base m i tree search) {c j : ℕ}
    (hc : c ∈ search.j0 :: tree) (hj : 1 ≤ j) (hjm : j ≤ m) :
    -2 * C ≤ cell costs (search.p c) j - search.u (search.p c) ∧
      cell costs (search.p c) j - search.u (search.p c) ≤ 2 * C ∧
      -2 * C ≤ reduced (cell costs) search.u search.v search.p c j ∧
      reduced (cell costs) search.u search.v search.p c j ≤ 4 * C := by
  obtain ⟨hrows, hcolumns⟩ := h.bounds hcost hi him
  have hcm := h.within c hc
  have hrow := hrows (search.p c) (Nat.pos_of_ne_zero (h.placed c hc))
    (h.matched.bounded c hcm (by omega))
  have hcolumn := hcolumns j hj hjm
  have hentry := hcost (search.p c) j
  unfold reduced
  omega

theorem Ready.used_cons (h : Ready (cell costs) C base m i tree search) (j : ℕ) :
    Function.update search.used search.j0 true j = true ↔ j ∈ search.j0 :: tree := by
  by_cases hj : j = search.j0
  · simp [hj]
  · rw [Function.update_of_ne hj, List.mem_cons, or_iff_right hj, h.used j]

include hcost hroom hi him in
theorem Ready.swept (h : Ready (cell costs) C base m i tree search) {scan : Scan}
    (hscan : Scanned (Function.update search.used search.j0 true)
      (fun j => i64 (i64 (cell costs (search.p search.j0) j - search.u (search.p search.j0)) -
        search.v j)) search.j0 ⟨search.min, search.way, i64Max, 0⟩ m scan) :
    Swept (cell costs) m (search.j0 :: tree) search scan := by
  have hused : ∀ j, Function.update search.used search.j0 true j = false ↔
      j ∉ search.j0 :: tree := fun j => by
    rw [← h.used_cons j, Bool.not_eq_true]
  have hmax : i64Max = 2 ^ 63 - 1 := rfl
  have hcur : ∀ j, 1 ≤ j → j ≤ m →
      i64 (i64 (cell costs (search.p search.j0) j - search.u (search.p search.j0)) - search.v j) =
        reduced (cell costs) search.u search.v search.p search.j0 j := by
    intro j hj hjm
    obtain ⟨hlow, hhigh, hlow', hhigh'⟩ := h.reduced_bounds hcost hi him List.mem_cons_self hj hjm
    unfold reduced at hlow' hhigh' ⊢
    have hfirst : i64 (cell costs (search.p search.j0) j - search.u (search.p search.j0)) =
        cell costs (search.p search.j0) j - search.u (search.p search.j0) :=
      i64_eq (by omega) (by omega)
    rw [hfirst, i64_eq (by omega) (by omega)]
  have hreaches : Reaches (cell costs) m (search.j0 :: tree) search.u search.v search.p scan.way
      scan.min := by
    intro j hj hjm hout
    obtain ⟨-, -, -, hhigh⟩ := h.reduced_bounds hcost hi him List.mem_cons_self hj hjm
    have hmin := hscan.min j
    have hway := hscan.way j
    simp only [hj, hjm, and_self, (hused j).mpr hout, true_and, hcur j hj hjm] at hmin hway
    by_cases htree : tree = []
    · subst htree
      have hless : reduced (cell costs) search.u search.v search.p search.j0 j < search.min j := by
        rw [(h.begun rfl).2.2 j]
        omega
      rw [if_pos hless] at hmin hway
      rw [hmin, hway]
      exact ⟨List.mem_cons_self, rfl, fun c hc => by rw [List.mem_singleton.mp hc]⟩
    · obtain ⟨hold, hvalue, hleast⟩ :=
        (h.grown htree).2 j hj hjm fun hmem => hout (List.mem_cons_of_mem _ hmem)
      by_cases hless : reduced (cell costs) search.u search.v search.p search.j0 j < search.min j
      · rw [if_pos hless] at hmin hway
        rw [hmin, hway]
        refine ⟨List.mem_cons_self, rfl, fun c hc => ?_⟩
        rcases List.mem_cons.mp hc with rfl | hc
        · exact le_rfl
        · exact hless.le.trans (hleast c hc)
      · rw [if_neg hless] at hmin hway
        rw [hmin, hway]
        refine ⟨List.mem_cons_of_mem _ hold, hvalue, fun c hc => ?_⟩
        rcases List.mem_cons.mp hc with rfl | hc
        · exact not_lt.mp hless
        · exact hleast c hc
  have hleast : ∀ j, 1 ≤ j → j ≤ m → j ∉ search.j0 :: tree → scan.delta ≤ scan.min j :=
    fun j hj hjm hout => hscan.least j hj hjm ((hused j).mpr hout)
  refine ⟨hreaches, fun j hj => ?_, ?_, hleast⟩
  · rw [hscan.way, if_neg fun hnew => (hused j).mp hnew.2.1 hj]
  · -- A free column is outside the tree, so `delta` is not the sentinel.
    have hroot := h.root
    obtain ⟨f, hf, hfm, hp⟩ := h.matched.exists_free him (by omega)
    have hout : f ∉ search.j0 :: tree := fun hmem => h.placed f hmem hp
    obtain ⟨hway, hmin, -⟩ := hreaches f hf hfm hout
    obtain ⟨-, -, -, hhigh⟩ := h.reduced_bounds hcost hi him hway hf hfm
    have hdelta := hleast f hf hfm hout
    rcases hscan.found with hsentinel | ⟨hlow, hjm, hj, hfound⟩
    · dsimp only at hsentinel
      omega
    · exact ⟨⟨hlow, hjm⟩, (hused _).mp hj, hfound⟩

include hcost hi in
theorem Ready.raised (h : Ready (cell costs) C base m i tree search) {scan : Scan}
    (hswept : Swept (cell costs) m (search.j0 :: tree) search scan) :
    Balanced (cell costs) m i (raise (search.j0 :: tree) search.p scan.delta search.u)
        (lower (search.j0 :: tree) scan.delta search.v) search.p ∧
      -C ≤ search.u i + scan.delta := by
  obtain ⟨⟨hlow, hhigh⟩, hout, hdelta⟩ := hswept.best
  obtain ⟨hway, hmin, -⟩ := hswept.reaches _ hlow hhigh hout
  have hleast : ∀ c ∈ search.j0 :: tree, ∀ j, 1 ≤ j → j ≤ m → j ∉ search.j0 :: tree →
      scan.delta ≤ reduced (cell costs) search.u search.v search.p c j :=
    fun c hc j hj hjm hj' => (hswept.least j hj hjm hj').trans
      ((hswept.reaches j hj hjm hj').2.2 c hc)
  by_cases htree : tree = []
  · subst htree
    obtain ⟨hzero, hbalanced, -⟩ := h.begun rfl
    have hroot : 0 = search.j0 := List.mem_singleton.mp h.chain.zero_mem
    have hrow : search.p search.j0 = i := hroot ▸ h.root
    refine ⟨hbalanced.shift h.matched h.within (fun r hr => ?_) h.placed hleast
      fun j hj hpos => ?_, ?_⟩
    · by_cases hlast : r = i
      · exact .inr (List.mem_map.mpr ⟨search.j0, List.mem_cons_self, hrow.trans hlast.symm⟩)
      · exact .inl (by omega)
    · have heq := List.mem_singleton.mp hj
      omega
    · have hvalue : scan.delta =
          reduced (cell costs) search.u search.v search.p search.j0 scan.j1 := by
        rw [hdelta, hmin, List.mem_singleton.mp hway]
      have hnonpos := hbalanced.nonpos scan.j1 hlow hhigh
      have hentry := (hcost i scan.j1).1
      unfold reduced at hvalue
      rw [hrow, hzero] at hvalue
      omega
  · obtain ⟨hbalanced, -⟩ := h.grown htree
    have hpos : 0 ≤ scan.delta := by
      have hbelow := hbalanced.below (search.p (scan.way scan.j1))
        (Nat.pos_of_ne_zero (h.placed _ hway))
        (h.matched.bounded _ (h.within _ hway) (by have := h.within _ hway; omega))
        scan.j1 hlow hhigh
      rw [hdelta, hmin]
      unfold reduced
      omega
    have hfloor := h.floor
    exact ⟨hbalanced.shift h.matched h.within (fun r hr => .inl hr) h.placed hleast
      fun _ _ _ => ⟨hpos, rfl⟩, by omega⟩

omit hcost hroom hi him in
theorem Search.turn_eq (search : Search) (hrows : ∀ a, a < m + 1 → ∀ b, b < m + 1 →
    Function.update search.used search.j0 true a = true →
      Function.update search.used search.j0 true b = true → search.p a = search.p b → a = b) :
    ∃ scan shift,
      Scanned (Function.update search.used search.j0 true)
        (fun j => i64 (i64 (cell costs (search.p search.j0) j - search.u (search.p search.j0)) -
          search.v j)) search.j0 ⟨search.min, search.way, i64Max, 0⟩ m scan ∧
      Shifted (Function.update search.used search.j0 true) search.p scan.delta
        ⟨search.u, search.v, scan.min⟩ (m + 1) shift ∧
      search.turn costs m = ⟨⟨shift.u, shift.v, search.p, scan.way⟩, scan.j1, shift.min,
        Function.update search.used search.j0 true⟩ :=
  ⟨_, _, scanned _ _ _ _ m, shifted hrows _, rfl⟩

include hcost hroom hi him in
theorem Ready.turn (h : Ready (cell costs) C base m i tree search)
    (hbase : -2 ^ 63 ≤ base - C ∧ base + C < 2 ^ 63) :
    Grown (cell costs) C base m i (search.j0 :: tree) (search.turn costs m) := by
  have hmax : i64Max = 2 ^ 63 - 1 := rfl
  have hused := h.used_cons
  obtain ⟨scan, shift, hscan, hshift, hturn⟩ := @Search.turn_eq costs m search
    fun a ha b hb haused hbused hsame => h.matched.once a (by omega) (by omega) b (by omega)
      (by omega) (h.placed a ((hused a).mp haused)) hsame
  have hswept := h.swept hcost hroom hi him hscan
  obtain ⟨hbalanced, hfloor⟩ := h.raised hcost hi hswept
  have hroot : search.p 0 = i := h.root
  have hzero : 0 ∈ search.j0 :: tree := h.chain.zero_mem
  have hraised : raise (search.j0 :: tree) search.p scan.delta search.u i =
      search.u i + scan.delta := by
    rw [← hroot, raise_mem hzero]
  obtain ⟨hrows, hcolumns⟩ := hbalanced.bounds h.matched h.root hi him hcost
    (by rw [hraised]; exact hfloor) fun r hr => .inl hr
  have horigin := h.origin
  -- Nothing overflows, so the loops do what the shift says.
  have hu : shift.u = raise (search.j0 :: tree) search.p scan.delta search.u := by
    funext r
    by_cases hr : r ∈ (search.j0 :: tree).map search.p
    · obtain ⟨c, hc, rfl⟩ := List.mem_map.mp hr
      have hcm := h.within c hc
      have hbound := hrows (search.p c) (Nat.pos_of_ne_zero (h.placed c hc))
        (h.matched.bounded c hcm (by omega))
      rw [raise_mem hc] at hbound ⊢
      rw [hshift.rows c (by omega) ((hused c).mpr hc)]
      exact i64_eq (by dsimp only; omega) (by dsimp only; omega)
    · rw [hshift.otherRows r fun j hj hjused hsame =>
        hr (List.mem_map.mpr ⟨j, (hused j).mp hjused, hsame⟩)]
      exact (if_neg hr).symm
  have hv : shift.v = lower (search.j0 :: tree) scan.delta search.v := by
    funext j
    rw [hshift.columns]
    by_cases hj : j ∈ search.j0 :: tree
    · have hjm := h.within j hj
      rw [if_pos ⟨by omega, (hused j).mpr hj⟩, lower_mem hj]
      by_cases hjzero : j = 0
      · have hlast := hrows i hi le_rfl
        rw [hraised] at hlast
        subst hjzero
        exact i64_eq (by dsimp only; omega) (by dsimp only; omega)
      · have hbound := hcolumns j (by omega) hjm
        rw [lower_mem hj] at hbound
        exact i64_eq (by dsimp only; omega) (by dsimp only; omega)
    · rw [if_neg fun hin => hj ((hused j).mp hin.2), lower_not_mem hj]
  have hmin : ∀ j, 1 ≤ j → j ≤ m → j ∉ search.j0 :: tree →
      shift.min j = scan.min j - scan.delta := by
    intro j hj hjm hout
    obtain ⟨hway, hvalue, -⟩ := hswept.reaches j hj hjm hout
    have hwaym := h.within _ hway
    have hrow := hrows (search.p (scan.way j)) (Nat.pos_of_ne_zero (h.placed _ hway))
      (h.matched.bounded _ hwaym (by omega))
    have hcolumn := hcolumns j hj hjm
    have hentry := hcost (search.p (scan.way j)) j
    rw [raise_mem hway] at hrow
    rw [lower_not_mem hout] at hcolumn
    unfold reduced at hvalue
    have hunused : Function.update search.used search.j0 true j = false := by
      rw [← Bool.not_eq_true, hused j]
      exact hout
    rw [hshift.min, if_pos ⟨by omega, hunused⟩]
    exact i64_eq (by dsimp only; omega) (by dsimp only; omega)
  rw [hturn, hu, hv]
  refine ⟨⟨h.chain.congr hswept.way, h.within, h.placed, h.matched, h.root, fun j hj hjzero => ?_,
    ?_, ?_, fun r hr => ?_⟩, hused, hbalanced, fun j hj hjm hout => ?_, ?_⟩
  · have hway := h.chain.way_mem hj hjzero
    have hlink := h.links j hj hjzero
    dsimp only
    rw [hswept.way j hj]
    unfold reduced at hlink ⊢
    rw [raise_mem hway, lower_mem hj]
    omega
  · dsimp only
    rw [hraised]
    exact hfloor
  · dsimp only
    rw [hraised, lower_mem hzero]
    omega
  · have hout : r ∉ (search.j0 :: tree).map search.p := by
      intro hmem
      obtain ⟨c, hc, hp⟩ := List.mem_map.mp hmem
      have hcm := h.within c hc
      have hbound := h.matched.bounded c hcm (by omega)
      omega
    exact (if_neg hout).trans (h.later r hr)
  · obtain ⟨hway, hvalue, hleast⟩ := hswept.reaches j hj hjm hout
    refine ⟨hway, ?_, fun c hc => ?_⟩
    · dsimp only
      rw [hmin j hj hjm hout, hvalue, reduced_shift_mem hway hout]
    · dsimp only
      rw [hmin j hj hjm hout, reduced_shift_mem hc hout]
      have hc' := hleast c hc
      omega
  · obtain ⟨hrange, hout, hdelta⟩ := hswept.best
    refine ⟨hrange, hout, ?_⟩
    dsimp only
    rw [hmin _ hrange.1 hrange.2 hout]
    omega

theorem Rooted.length_le (h : Rooted (cell costs) C base m i tree search) :
    tree.length ≤ m + 1 := by
  have hsub : tree.toFinset ⊆ Finset.range (m + 1) := by
    intro j hj
    have hjm := h.within j (List.mem_toFinset.mp hj)
    exact Finset.mem_range.mpr (by omega)
  have hcard := Finset.card_le_card hsub
  rwa [List.toFinset_card_of_nodup h.chain.nodup, Finset.card_range] at hcard

include hcost hroom hi him in
theorem Ready.run (hbase : -2 ^ 63 ≤ base - C ∧ base + C < 2 ^ 63) {fuel : ℕ}
    (h : Ready (cell costs) C base m i tree search) (hfuel : m + 1 ≤ fuel + tree.length) :
    ∃ found tree', search.run costs m fuel = some found ∧
      Grown (cell costs) C base m i tree' found ∧ found.p found.j0 = 0 := by
  have hlength := h.length_le
  rw [List.length_cons] at hlength
  induction fuel generalizing tree search with
  | zero => omega
  | succ fuel ih =>
    have hgrown := h.turn hcost hroom hi him hbase
    unfold Search.run
    by_cases hfree : (search.turn costs m).p (search.turn costs m).j0 = 0
    · exact ⟨_, _, if_pos hfree, hgrown, hfree⟩
    · simp only [if_neg hfree]
      have hready := hgrown.ready hfree
      have hnext := hready.length_le
      rw [List.length_cons] at hnext
      exact ih hready (by rw [List.length_cons]; omega) hnext

end Turn

end MusicServer.Album
