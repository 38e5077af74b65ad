import ReachMixture.Proofs.Fit.Outcome
import ReachMixture.Proofs.Random.UnitInterval
import ReachMixture.Random.Ziggurat
import ReachMixture.Run.Problem

/-!
# Problems from settings

What `truthMixture` and `Problem.generate` make of settings. The mixture is read
off the settings, and the audiences are drawn row by row from a stream that
nothing else has read from. So more audiences are the same ones and some more
behind them, as long as there is room.

- `Table.toLists_ofEntries_iff`: which rows come back from the table of their
  entries.
- `truthMixture_eq_ok_iff`: the mixture of settings has the weights and
  locations that they list.
- `toList_drawVector_take`: fewer draws are the first of more draws.
- `RunConfig.HasRoom`, `Truth.problem`, `Problem.generate_of_truth`: the problem
  of a mixture, and that settings ask for no other.
- `Problem.sizes_of_generate`, `Problem.room_of_generate`: its sizes, and that it
  has room.
- `Problem.generate_take`: **smaller problems are the beginnings of larger
  ones**, and all counts are from zero to one.
-/

namespace ReachMixture

variable {α β γ : Type} {m : Nat}

/-! ## Mixtures of settings -/

/-- The number of coordinates of the first location. -/
def RunConfig.dims (c : RunConfig α) : Nat := (c.truthLocations.headD []).length

theorem checkEven_eq_ok {rows : List (List α)} (h : ∀ row ∈ rows, row.length = m) :
    checkEven m rows = .ok ⟨h⟩ := by
  induction rows with
  | nil => rfl
  | cons row rest ih =>
    obtain ⟨hrow, hrest⟩ := List.forall_mem_cons.mp h
    rw [checkEven, dif_pos hrow, ih hrest]
    rfl

/-- Entry `j` of row `i` of even rows stands at `i * cols + j` of
`rows.flatten`. -/
theorem getElem?_flatten_of_even {rows : List (List α)} {cols : Nat}
    (h : ∀ row ∈ rows, row.length = cols) (i : Nat) {j : Nat} (hj : j < cols) :
    rows.flatten[i * cols + j]? = rows[i]?.bind fun row => row[j]? := by
  induction rows generalizing i with
  | nil => rfl
  | cons row rows ih =>
    obtain ⟨hrow, hrows⟩ := List.forall_mem_cons.mp h
    rw [List.flatten_cons]
    cases i with
    | zero =>
      rw [Nat.zero_mul, Nat.zero_add, List.getElem?_append_left (hj.trans_eq hrow.symm)]
      rfl
    | succ i =>
      have hplace : (i + 1) * cols + j = row.length + (i * cols + j) := by
        rw [hrow, Nat.succ_mul]
        omega
      rw [hplace, List.getElem?_append_right (Nat.le_add_right _ _),
        Nat.add_sub_cancel_left, ih hrows, List.getElem?_cons_succ]

namespace Table

theorem toLists_ofEntries (rows cols : Nat) (entries : List α)
    (h : entries.length = rows * cols) :
    (ofEntries rows cols entries h).toLists =
      List.ofFn fun i : Fin rows => List.ofFn fun j : Fin cols =>
        entries.get ⟨i.val * cols + j.val, h.symm ▸ entry_lt i j⟩ := by
  rw [toLists, rowList, vectors, Vector.toList_ofFn, List.map_ofFn]
  exact congrArg List.ofFn (funext fun i => Vector.toList_ofFn)

theorem length_of_mem_toLists {t : Table α} {row : List α} (h : row ∈ t.toLists) :
    row.length = t.cols := by
  obtain ⟨v, -, rfl⟩ := List.mem_map.mp h
  exact Vector.length_toList

/-- **Rows come back** from `ofEntries` iff all of them have `cols` entries. -/
theorem toLists_ofEntries_iff {rows : List (List α)} {cols : Nat}
    (h : rows.flatten.length = rows.length * cols) :
    (ofEntries rows.length cols rows.flatten h).toLists = rows ↔
      ∀ row ∈ rows, row.length = cols := by
  constructor
  · intro hrows row hrow
    rw [← hrows] at hrow
    exact length_of_mem_toLists hrow
  · intro heven
    rw [toLists_ofEntries]
    refine List.ext_getElem List.length_ofFn fun i _ hi => ?_
    rw [List.getElem_ofFn]
    have hrow := heven _ (List.getElem_mem hi)
    refine List.ext_getElem (List.length_ofFn.trans hrow.symm) fun j hj _ => ?_
    have hentry := getElem?_flatten_of_even heven i (hj.trans_eq List.length_ofFn)
    rw [List.getElem_ofFn, List.get_eq_getElem, List.getElem_eq_iff, hentry,
      List.getElem?_eq_getElem hi, Option.bind_some, List.getElem?_eq_getElem]

end Table

section Truth

variable [Zero α] [LT α] [DecidableLT α] [Scalar α]

theorem Mixture.ofComponents_eq_ok_iff {components : List (Component α m)}
    {x : Mixture α m} :
    Mixture.ofComponents components = .ok x ↔ x.components = components := by
  constructor
  · exact Mixture.ofComponents_eq_ok
  · rintro rfl
    exact Mixture.ofComponents_of_isWeight x.isWeight

/-- `Mixture.ofTable weights t` is the mixture that has these weights and, as
locations, the rows of `t`. -/
theorem Mixture.ofTable_eq_ok_iff {weights : List α} {t : Table α}
    {x : Mixture α t.cols} :
    Mixture.ofTable weights t = .ok x ↔ x.weights = weights ∧
    x.locations = t.rowList := by
  rw [Mixture.ofTable, bind_eq_ok_iff]
  simp only [Mixture.ofComponents_eq_ok_iff, Component.zipTable_eq_zip,
    Component.zip_eq_ok_iff]
  constructor
  · rintro ⟨components, h, hx⟩
    rwa [← hx] at h
  · exact fun h => ⟨_, h, rfl⟩

/-- For a table of even rows, these are the rows. -/
theorem Mixture.ofTable_ofEntries_eq_ok_iff {weights : List α} {rows : List (List α)}
    (heven : ∀ row ∈ rows, row.length = m) {x : Mixture α m} :
    Mixture.ofTable weights
        (.ofEntries rows.length m rows.flatten (length_flatten_of_even heven)) =
      .ok x ↔ x.weights = weights ∧ x.locations.map Vector.toList = rows := by
  have hrows := (Table.toLists_ofEntries_iff (length_flatten_of_even heven)).mpr heven
  refine Mixture.ofTable_eq_ok_iff.trans (and_congr_right fun _ => ?_)
  constructor
  · intro hlocations
    exact (congrArg (List.map Vector.toList) hlocations).trans hrows
  · intro hlocations
    exact List.map_injective_iff.mpr (fun _ _ => Vector.toList_inj.mp)
      (hlocations.trans hrows.symm)

/-- **The mixture of settings** is the one whose weights and locations are
`truthWeights` and `truthLocations`. There has to be a location. -/
theorem truthMixture_eq_ok_iff {c : RunConfig α} {truth : Truth α} :
    truthMixture c = .ok truth ↔
      c.truthLocations ≠ [] ∧ truth.mixture.weights = c.truthWeights ∧
        truth.mixture.locations.map Vector.toList = c.truthLocations := by
  obtain ⟨dims, hdims, x⟩ := truth
  unfold truthMixture
  constructor
  · intro h
    split at h
    · cases h
    · rename_i first rest hlocations
      split at h
      · obtain ⟨even, -, h⟩ := bind_eq_ok_iff.mp h
        obtain ⟨y, hy, h⟩ := bind_eq_ok_iff.mp h
        cases h
        rw [hlocations]
        exact ⟨List.cons_ne_nil _ _,
          (Mixture.ofTable_ofEntries_eq_ok_iff even.down).mp (mapError_eq_ok_iff.mp hy)⟩
      · cases h
  · rintro ⟨hne, hweights, hlocations⟩
    cases hlist : c.truthLocations with
    | nil => exact absurd hlist hne
    | cons first rest =>
      rw [hlist] at hlocations
      have heven : ∀ row ∈ first :: rest, row.length = dims := by
        rw [← hlocations]
        intro row hrow
        obtain ⟨v, -, rfl⟩ := List.mem_map.mp hrow
        exact Vector.length_toList
      -- the number of coordinates is read off the first location
      obtain rfl := heven first List.mem_cons_self
      dsimp only
      rw [dif_pos hdims, checkEven_eq_ok heven]
      have hx := (Mixture.ofTable_ofEntries_eq_ok_iff heven).mpr ⟨hweights, hlocations⟩
      exact bind_eq_ok_iff.mpr
        ⟨⟨heven⟩, rfl, bind_eq_ok_iff.mpr ⟨x, mapError_eq_ok_iff.mpr hx, rfl⟩⟩

/-- The mixture of settings has `c.dims` identifier types. -/
theorem dims_of_truthMixture {c : RunConfig α} {truth : Truth α}
    (h : truthMixture c = .ok truth) :
    truth.dims = c.dims := by
  obtain ⟨hne, -, hlocations⟩ := truthMixture_eq_ok_iff.mp h
  rw [RunConfig.dims]
  cases hlist : truth.mixture.locations with
  | nil =>
    rw [hlist] at hlocations
    exact absurd hlocations.symm hne
  | cons v rest =>
    rw [hlist] at hlocations
    rw [← hlocations]
    exact Vector.length_toList.symm

/-- It has as many components as `truthLocations`. -/
theorem size_of_truthMixture {c : RunConfig α} {truth : Truth α}
    (h : truthMixture c = .ok truth) : truth.mixture.size = c.truthLocations.length := by
  obtain ⟨-, -, hlocations⟩ := truthMixture_eq_ok_iff.mp h
  rw [← hlocations, List.length_map, Mixture.locations, List.length_map, Mixture.size]

end Truth

/-! ## Draws in a row -/

/-- **Fewer draws** are the first of more draws. By induction from `r` to `r'`. -/
theorem toList_drawVector_take (draw : γ → β × γ) {r r' : Nat} (h : r ≤ r') (g : γ) :
    (drawVector draw r' g).1.toList.take r = (drawVector draw r g).1.toList := by
  induction r', h using Nat.le_induction with
  | base => exact List.take_of_length_le Vector.length_toList.le
  | succ n hn ih =>
    -- the last draw is behind those that are taken
    show ((drawVector draw n g).1.push _).toList.take r = _
    rw [Vector.toList_push,
      List.take_append_of_le_length (by rw [Vector.length_toList]; exact hn), ih]

/-- What holds of every draw holds of all entries of `drawVector`. -/
theorem forall_mem_drawVector {draw : γ → β × γ} {P : β → Prop}
    (h : ∀ g, P (draw g).1) (n : Nat) (g : γ) :
    ∀ x ∈ (drawVector draw n g).1.toList, P x := by
  induction n with
  | zero =>
    intro x hx
    cases hx
  | succ n ih =>
    intro x hx
    change x ∈ ((drawVector draw n g).1.push _).toList at hx
    rw [Vector.toList_push, List.mem_append, List.mem_singleton] at hx
    rcases hx with hx | rfl
    · exact ih x hx
    · exact h _

/-! ## Problems of settings -/

/-- `c` with another number of audiences. -/
def RunConfig.withRows (c : RunConfig α) (rows : Nat) : RunConfig α := { c with rows }

/-- There is room for the counts of all audiences, and for the reach of every
location on every audience. -/
structure RunConfig.HasRoom (c : RunConfig α) : Prop where
  /-- The counts of all audiences. -/
  signal : c.rows * c.dims < Capacity.entries
  /-- The reach of every location on every audience. -/
  reach : c.truthLocations.length * c.rows < Capacity.entries

instance (c : RunConfig α) : Decidable c.HasRoom :=
  decidable_of_iff (c.rows * c.dims < Capacity.entries ∧
      c.truthLocations.length * c.rows < Capacity.entries)
    ⟨fun h => ⟨h.1, h.2⟩, fun h => ⟨h.signal, h.reach⟩⟩

namespace Problem

variable [Zero α] [LT α] [Scalar α]

/-- The mixture that generated the reach, with its number of identifier types. -/
def answer (p : Problem α) : Truth α :=
  ⟨p.observations.dims, p.observations.dims_pos, p.truth⟩

/-- The identifier counts, row by row. -/
def signalRows (p : Problem α) : List (List α) :=
  p.observations.signal.toList.map Vector.toList

end Problem

section Generate

variable [Zero α] [LT α] [DecidableLT α] [Scalar α] [Add α] [Mul α]
  [Neg α] [RandomSource γ α]

/-- The problem of a mixture: `drawSignal` from the beginning of a stream, with
the reach that `predict` gives. -/
def Truth.problem (γ : Type) [RandomSource γ α] (truth : Truth α) (seed : UInt64)
    {rows : Nat} (hrows : 0 < rows) :
    Problem α :=
  let signal := (drawSignal rows truth.dims (RandomSource.seeded α seed : γ)).1
  { observations := ⟨rows, truth.dims, signal, predict truth.mixture.components signal,
    hrows, truth.dims_pos⟩
    truth := truth.mixture }

/-- **The problem of settings** that ask for audiences and have a mixture is
`Truth.problem` of it, if it has room. -/
theorem Problem.generate_of_truth {c : RunConfig α} (hrows : 0 < c.rows) {truth : Truth α}
    (htruth : truthMixture c = .ok truth) :
    Problem.generate γ c =
      if c.HasRoom then .ok (truth.problem γ c.seed hrows)
      else .error (.refused (.aborted .overCapacity)) := by
  have hdims := dims_of_truthMixture htruth
  have hsize := size_of_truthMixture htruth
  rw [Problem.generate, dif_pos hrows, htruth]
  show (refusedBy (drawUniform c.rows truth.dims (RandomSource.seeded α c.seed : γ))
    >>= _) = _
  by_cases hsignal : c.rows * truth.dims < Capacity.entries
  · rw [drawUniform_eq_ok_iff.mpr ⟨hsignal, rfl⟩]
    show (refusedBy (Component.evaluate truth.mixture.components (Thunk.mk fun _ => _))
      >>= _) = _
    by_cases hreach : truth.mixture.size * c.rows < Capacity.entries
    · -- a number per audience takes no more room than the counts do
      have hsums : c.rows < Capacity.entries :=
        (Nat.le_mul_of_pos_right _ truth.dims_pos).trans_lt hsignal
      rw [Component.evaluate_eq_ok_iff.mpr ⟨hreach, hsums, rfl⟩,
        if_pos ⟨hdims ▸ hsignal, hsize ▸ hreach⟩]
      rfl
    · rw [Component.evaluate, if_neg fun h => hreach (hsize.symm ▸ h.reach)]
      show (refusedBy (Capacity.reserve (truth.mixture.size * c.rows) >>= _) >>= _) = _
      rw [Capacity.reserve_eq_error (not_lt.mp hreach)]
      rfl
  · rw [drawUniform, Capacity.reserve_eq_error (not_lt.mp hsignal),
      if_neg fun h => hsignal (hdims.symm ▸ h.signal)]
    rfl

/-- Settings that `truthMixture` refuses have no problem. -/
theorem Problem.generate_of_error {c : RunConfig α} (hrows : 0 < c.rows)
    {failure : Failure α} (h : truthMixture c = .error failure) :
    Problem.generate γ c = .error failure := by
  rw [Problem.generate, dif_pos hrows, h]
  rfl

/-- A problem of settings is `Truth.problem` of their mixture. -/
theorem Problem.exists_truth_of_generate {c : RunConfig α} {p : Problem α}
    (h : Problem.generate γ c = .ok p) :
    ∃ (truth : Truth α) (hrows : 0 < c.rows), truthMixture c = .ok truth ∧ c.HasRoom ∧
      p = truth.problem γ c.seed hrows := by
  by_cases hrows : 0 < c.rows
  · cases htruth : truthMixture c with
    | error failure => cases h.symm.trans (Problem.generate_of_error hrows htruth)
    | ok truth =>
      rw [Problem.generate_of_truth hrows htruth] at h
      split_ifs at h with hroom
      cases h
      exact ⟨truth, hrows, rfl, hroom, rfl⟩
  · rw [Problem.generate, dif_neg hrows] at h
    cases h

/-- A problem of settings has the sizes that they ask for, and there is room for
it. -/
theorem Problem.sizes_of_generate {c : RunConfig α} {p : Problem α}
    (h : Problem.generate γ c = .ok p) :
    p.observations.rows = c.rows ∧ p.observations.dims = c.dims ∧
      p.truth.locations.length = c.truthLocations.length ∧ c.HasRoom := by
  obtain ⟨truth, hrows, htruth, hroom, rfl⟩ := Problem.exists_truth_of_generate h
  have hlocations : truth.mixture.locations.length = c.truthLocations.length :=
    (List.length_map _).trans (size_of_truthMixture htruth)
  exact ⟨rfl, dims_of_truthMixture htruth, hlocations, hroom⟩

/-- The counts of a problem and the reach of its mixture have room. -/
theorem Problem.room_of_generate {c : RunConfig α} {p : Problem α}
    (h : Problem.generate γ c = .ok p) :
    p.observations.rows * p.observations.dims < Capacity.entries ∧
      p.truth.locations.length * p.observations.rows < Capacity.entries := by
  obtain ⟨hrows, hdims, hlocations, hroom⟩ := Problem.sizes_of_generate h
  rw [hlocations, hrows, hdims]
  exact ⟨hroom.signal, hroom.reach⟩

variable {truth : Truth α} {seed : UInt64} {r r' : Nat} (hr : 0 < r) (hr' : 0 < r')

omit [DecidableLT α] in
theorem Truth.signalRows_problem_take (hle : r ≤ r') :
    (truth.problem γ seed hr').signalRows.take r =
      (truth.problem γ seed hr).signalRows := by
  rw [Problem.signalRows, ← List.map_take]
  exact congrArg _ (toList_drawVector_take _ hle _)

omit [DecidableLT α] in
/-- The reach of an audience is predicted from its own counts. -/
theorem Truth.target_problem_take (hle : r ≤ r') :
    (truth.problem γ seed hr').observations.target.toList.take r =
      (truth.problem γ seed hr).observations.target.toList := by
  have hmap : ∀ {n : Nat} (hn : 0 < n),
      (truth.problem γ seed hn).observations.target.toList =
      (drawSignal n truth.dims (RandomSource.seeded α seed : γ)).1.toList.map fun s =>
        truth.mixture.components.foldl
          (fun acc c => acc + c.weight * partialReach (Vec.dot c.location s)) 0 :=
    fun _ => Vector.toList_map
  rw [hmap, hmap, ← List.map_take]
  exact congrArg _ (toList_drawVector_take _ hle _)

end Generate

/-- **Smaller problems are the beginnings of larger ones.** Settings that differ
in `rows` only, with room for the counts of the larger number and for the reach
of all locations on them, fail alike, or they have the same mixture, and the
audiences and reaches of the smaller problem are the first ones of the larger.
All counts are at least zero and below one when the stream makes them of the
upper 52 bits of a word. -/
theorem Problem.generate_take [RandomSource γ Float]
    (hunit : ∀ g : γ, ∃ word : UInt64, (RandomSource.unit g : Float × γ).1 =
      (word >>> 12).toFloat / 4503599627370496.0)
    (c : RunConfig Float) {r r' : Nat} (hr : 0 < r) (hle : r ≤ r')
    (hsignal : r' * c.dims < Capacity.entries)
    (hreach : c.truthLocations.length * r' < Capacity.entries) :
    (∃ failure, Problem.generate γ (c.withRows r) = .error failure ∧
      Problem.generate γ (c.withRows r') = .error failure) ∨
    ∃ p p', Problem.generate γ (c.withRows r) = .ok p ∧
      Problem.generate γ (c.withRows r') = .ok p' ∧
      p.answer = p'.answer ∧ p.observations.rows = r ∧ p'.observations.rows = r' ∧
      p.signalRows = p'.signalRows.take r ∧
      p.observations.target.toList = p'.observations.target.toList.take r ∧
      ∀ row ∈ p'.signalRows, row.length = c.dims ∧ ∀ v ∈ row, 0 ≤ v ∧ v < 1 := by
  have hr' : 0 < r' := hr.trans_le hle
  have hroom' : (c.withRows r').HasRoom := ⟨hsignal, hreach⟩
  -- where there is room for the larger problem, there is room for the smaller
  -- one
  have hroom : (c.withRows r).HasRoom :=
    ⟨(Nat.mul_le_mul_right _ hle).trans_lt hsignal,
      (Nat.mul_le_mul_left _ hle).trans_lt hreach⟩
  -- the mixture does not depend on the number of audiences
  have hsame : ∀ rows, truthMixture (c.withRows rows) = truthMixture c := fun _ => rfl
  cases htruth : truthMixture c with
  | error failure =>
    exact .inl ⟨failure, Problem.generate_of_error hr ((hsame r).trans htruth),
      Problem.generate_of_error hr' ((hsame r').trans htruth)⟩
  | ok truth =>
    have hdims := dims_of_truthMixture htruth
    refine .inr ⟨truth.problem γ c.seed hr, truth.problem γ c.seed hr', ?_, ?_, rfl,
      rfl, rfl, ?_, ?_, ?_⟩
    · rw [Problem.generate_of_truth hr ((hsame r).trans htruth), if_pos hroom]
      rfl
    · rw [Problem.generate_of_truth hr' ((hsame r').trans htruth), if_pos hroom']
      rfl
    · exact (Truth.signalRows_problem_take hr hr' hle).symm
    · exact (Truth.target_problem_take hr hr' hle).symm
    · intro row hrow
      obtain ⟨v, hv, rfl⟩ := List.mem_map.mp hrow
      refine ⟨Vector.length_toList.trans hdims, ?_⟩
      -- a row is made of draws, and the signal of rows
      refine forall_mem_drawVector
        (P := fun v : Vector Float _ => ∀ x ∈ v.toList, 0 ≤ x ∧ x < 1) ?_ r' _ v hv
      refine forall_mem_drawVector ?_ _
      intro g
      obtain ⟨word, hword⟩ := hunit g
      rw [hword]
      exact unit_bounds word

/-- The first ten audiences of the thousand of `RunConfig.usual`. -/
theorem Problem.generate_take_usual :
    (∀ g : Random.Generator, ∃ word : UInt64,
      (RandomSource.unit g : Float × Random.Generator).1 =
        (word >>> 12).toFloat / 4503599627370496.0) ∧
    1000 * (RunConfig.usual : RunConfig Float).dims < Capacity.entries ∧
    (RunConfig.usual : RunConfig Float).truthLocations.length * 1000 < Capacity.entries ∧
    ∃ p p', Problem.generate Random.Generator (RunConfig.usual.withRows 10) = .ok p ∧
      Problem.generate Random.Generator (RunConfig.usual.withRows 1000) = .ok p' ∧
      p.signalRows = p'.signalRows.take 10 ∧
      p.observations.target.toList = p'.observations.target.toList.take 10 ∧
      ∀ row ∈ p'.signalRows, row.length = 2 ∧ ∀ v ∈ row, (0 : Float) ≤ v ∧ v < 1 := by
  have hunit : ∀ g : Random.Generator, ∃ word : UInt64,
      (RandomSource.unit g : Float × Random.Generator).1 =
        (word >>> 12).toFloat / 4503599627370496.0 :=
    fun g => ⟨g.next.1, rfl⟩
  have hsignal : 1000 * (RunConfig.usual : RunConfig Float).dims <
      Capacity.entries := by decide
  have hreach : (RunConfig.usual : RunConfig Float).truthLocations.length * 1000 <
      Capacity.entries := by decide
  refine ⟨hunit, hsignal, hreach, ?_⟩
  rcases Problem.generate_take hunit RunConfig.usual (r := 10) (by decide)
    (by decide) hsignal hreach with
    ⟨failure, hfailure, -⟩ | ⟨p, p', hp, hp', -, -, -, hrows, htarget, hcounts⟩
  · obtain ⟨truth, htruth, -⟩ := exists_ok_of_any (p := fun _ => true)
      (r := truthMixture (RunConfig.usual.withRows 10 : RunConfig Float)) (by decide)
    rw [Problem.generate_of_truth (by decide) htruth, if_pos (by decide)] at hfailure
    cases hfailure
  · exact ⟨p, p', hp, hp', hrows, htarget, hcounts⟩

/-- One audience and one location, which has no weight. -/
def emptyRun : RunConfig Float :=
  { RunConfig.usual with rows := 1, truthLocations := [[1.0]], truthWeights := [0.0] }

theorem truthMixture_emptyRun :
    truthMixture emptyRun = .ok ⟨1, Nat.one_pos, ⟨[⟨0.0, #v[1.0]⟩], by decide⟩⟩ :=
  truthMixture_eq_ok_iff.mpr ⟨List.cons_ne_nil _ _, rfl, rfl⟩

/-- There is a problem with one audience, and none with `2 ^ 60`, although these
can be counted in 64 bits. -/
theorem Problem.generate_crowded :
    2 ^ 60 * emptyRun.dims < 2 ^ 64 ∧
    (∃ p, Problem.generate Random.Generator (emptyRun.withRows 1) = .ok p) ∧
    Problem.generate Random.Generator (emptyRun.withRows (2 ^ 60)) =
      .error (.refused (.aborted .overCapacity)) := by
  refine ⟨by decide, ?_, ?_⟩
  · rw [Problem.generate_of_truth (c := emptyRun.withRows 1) Nat.one_pos
      truthMixture_emptyRun, if_pos (by decide)]
    exact ⟨_, rfl⟩
  · rw [Problem.generate_of_truth (c := emptyRun.withRows (2 ^ 60)) (by decide)
      truthMixture_emptyRun, if_neg (by decide)]

end ReachMixture
