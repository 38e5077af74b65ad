import ReachMixture.Proofs.Fit.Draws
import ReachMixture.Proofs.Fit.Region
import ReachMixture.Proofs.Order
import ReachMixture.Proofs.Random.Below

/-!
# What sampling returns

A candidate starts at a location that is picked by weight. Locations without
weight take no room on the line to pick from: their bounds coincide, and a place
on a bound belongs to what comes behind it. So they are never picked, wherever
they stand, as long as the place is not negative and below the total.

- `isValidLocation_eq_true_iff`: the two conditions on candidates come to one,
  that all coordinates are positive.
- `Stretch.pick_balanced`: how a stretch is split does not matter, since its
  bounds ascend.
- `sourceIndex`, `Picker.pick_ofCons`: the picked location, counted off.
- `exists_weight_sourceIndex`: it has weight.
- `drawCandidates_eq`: candidates as a list of draws one after another.
- `sampleTable_sources`: **what sampling returns**, draw by draw.
-/

namespace ReachMixture

variable {α γ : Type} {m : Nat}

/-! ## The test on candidates -/

section Test

variable [Zero α] [LT α] [LE α] [DecidableLT α] [DecidableLE α]

/-- If the defined coordinates are positive, so is the least. By induction on
the coordinates. -/
theorem least_pos [LawfulOrder α] {coords : List α} {least : Option α}
    (hleast : ∀ l, least = some l → 0 < l) (h : ∀ v ∈ coords, v ≤ v → 0 < v) : ∀ l,
    coords.foldl lesser least = some l → 0 < l := by
  induction coords generalizing least with
  | nil => exact hleast
  | cons v coords ih =>
    obtain ⟨hv, hcoords⟩ := List.forall_mem_cons.mp h
    refine ih ?_ hcoords
    intro l hl
    cases least with
    | none =>
      rw [lesser] at hl
      split_ifs at hl with hdefined
      cases hl
      exact hv hdefined
    | some least =>
      rw [lesser] at hl
      split_ifs at hl with hlt
      · cases hl
        exact hv (LawfulOrder.defined_of_le (LawfulOrder.lt_iff.mp hlt).1).1
      · exact hleast l hl

variable [One α] [Add α]

/-- `leastCoordinate` decides on the defined coordinates alone. -/
theorem leastCoordinate_pos_iff [LawfulCoordinates α] [LawfulOrder α] (coords : List α) :
    (leastCoordinate coords).all (fun l => decide (0 < l)) = true ↔
    ∀ v ∈ coords, v ≤ v → 0 < v := by
  rw [leastCoordinate_eq, Option.all_eq_true]
  simp only [decide_eq_true_iff]
  exact ⟨fun h => (pos_of_least h).2, least_pos (by simp)⟩

omit [One α] [DecidableLT α] [DecidableLE α] in
theorem sum_pos [LawfulSums α] {coords : List α} {sum : α} (hsum : 0 < sum)
    (h : ∀ v ∈ coords, 0 < v) :
    0 < coords.foldl (· + ·) sum := by
  induction coords generalizing sum with
  | nil => exact hsum
  | cons v coords ih =>
    obtain ⟨hv, hcoords⟩ := List.forall_mem_cons.mp h
    have hle : sum ≤ sum + v :=
      LawfulSums.le_add_right (LawfulOrder.lt_iff.mp hsum).1 (LawfulOrder.lt_iff.mp hv).1
    exact ih (LawfulOrder.lt_of_lt_of_le hsum hle) hcoords

/-- **The test in one condition.** The two conditions of `isValidLocation` hold
together exactly if there are coordinates and all of them are positive. -/
theorem isValidLocation_eq_true_iff [LawfulCoordinates α]
    [LawfulSums α] (coords : List α) :
    isValidLocation coords = true ↔ coords ≠ [] ∧ ∀ v ∈ coords, 0 < v := by
  constructor
  · intro h
    refine ⟨?_, pos_of_isValidLocation h⟩
    rintro rfl
    cases h
  · rintro ⟨hne, hpos⟩
    have hsum : 0 < coords.foldl (· + ·) 0 := by
      cases coords with
      | nil => exact absurd rfl hne
      | cons v coords =>
        obtain ⟨hv, hcoords⟩ := List.forall_mem_cons.mp hpos
        have hzero := (LawfulOrder.lt_iff.mp hv).1
        have hle : v ≤ 0 + v :=
          LawfulSums.le_add_left (LawfulOrder.defined_of_le hzero).1 hzero
        rw [List.foldl_cons]
        exact sum_pos (LawfulOrder.lt_of_lt_of_le hv hle) hcoords
    have hleast := (leastCoordinate_pos_iff coords).mpr fun v hv _ => hpos v hv
    rw [isValidLocation, hleast, decide_eq_true hsum]
    simpa using hne

end Test

/-- **Valid locations are the positive ones**, with undefined and infinite
coordinates and zeros of either sign anywhere among them. `leastCoordinate` does
not see undefined ones and finds whatever else is not positive; the sum is
undefined as soon as one coordinate is. -/
theorem isValidLocation_iff_forall_pos (coords : List Float) :
    (isValidLocation coords = true ↔ coords ≠ [] ∧ ∀ v ∈ coords, 0 < v) ∧
    (isValidLocation coords = true → ∀ v ∈ coords, v.isNaN = false) ∧
    ((leastCoordinate coords).all (fun l => decide (0 < l)) = true ↔
      ∀ v ∈ coords, v.isNaN = false → 0 < v) ∧
    ((∃ v ∈ coords, v.isNaN = true) → (coords.foldl (· + ·) 0).isNaN = true) := by
  refine ⟨isValidLocation_eq_true_iff coords, fun h v hv => ?_, ?_, ?_⟩
  · rw [float_isNaN_eq_false_iff]
    exact LawfulCoordinates.defined_of_pos (pos_of_isValidLocation h v hv)
  · simp only [float_isNaN_eq_false_iff]
    exact leastCoordinate_pos_iff coords
  · rintro ⟨v, hv, hundefined⟩
    by_contra hsum
    rw [Bool.not_eq_true, float_isNaN_eq_false_iff] at hsum
    rw [(float_isNaN_eq_false_iff v).mpr ((defined_of_sum hsum).2 v hv)] at hundefined
    cases hundefined

/-- Infinite coordinates are positive. Beside an undefined one only the sum
fails, and beside `-0.0` only the least coordinate. -/
theorem isValidLocation_iff_forall_pos_mixed :
    (∀ v ∈ ([2.0, 1.0 / 0.0] : List Float), 0 < v ∧ v.isNaN = false) ∧
    isValidLocation ([0.0 / 0.0, 2.0] : List Float) = false ∧
    (leastCoordinate ([0.0 / 0.0, 2.0] : List Float)).all
      (fun l => decide (0 < l)) = true ∧
    (([0.0 / 0.0, 2.0] : List Float).foldl (· + ·) 0).isNaN = true ∧
    isValidLocation ([2.0, -0.0] : List Float) = false ∧
    0 < ([2.0, -0.0] : List Float).foldl (· + ·) 0 := by
  obtain ⟨hpositive, hdefined, -⟩ := isValidLocation_iff_forall_pos [2.0, 1.0 / 0.0]
  obtain ⟨hundefined, -, hleast, hsum⟩ := isValidLocation_iff_forall_pos [0.0 / 0.0, 2.0]
  obtain ⟨hzero, -⟩ := isValidLocation_iff_forall_pos [2.0, -0.0]
  have hvalid : isValidLocation ([2.0, 1.0 / 0.0] : List Float) =
      true := by decide +kernel
  refine ⟨fun v hv => ⟨(hpositive.mp hvalid).2 v hv, hdefined hvalid v hv⟩, ?_,
    hleast.mpr (by decide +kernel), hsum ⟨_, List.mem_cons_self, by decide +kernel⟩,
    ?_, by decide +kernel⟩
  · rw [← Bool.not_eq_true, hundefined]
    decide +kernel
  · rw [← Bool.not_eq_true, hzero]
    decide +kernel

/-! ## Picking -/

section Pick

variable [LE α] [DecidableLE α]

/-- If `u` does not reach `bound`, it reaches none of the larger `bounds`. -/
theorem countP_le_eq_zero [LT α] [LawfulOrder α] {u bound : α}
    {bounds : List α} (hu : ¬ bound ≤ u) (h : ∀ b ∈ bounds, bound ≤ b) :
    (bounds.countP fun b => decide (b ≤ u)) = 0 := by
  refine List.countP_eq_zero.mpr fun b hb => ?_
  rw [decide_eq_true_iff]
  exact fun hbu => hu (LawfulOrder.trans (h b hb) hbu)

namespace Stretch

/-- The pick of a chain that is cut at one of its bounds. -/
theorem pick_chain_append [LT α] [LawfulOrder α] {u bound : α}
    {left : List (α × Vector α m)} (hleft : ∀ b ∈ left, b.1 ≤ bound)
    (first next : Vector α m) (right : List (α × Vector α m)) :
    (chain first (left ++ (bound, next) :: right)).pick u =
      if bound ≤ u then (chain next right).pick u else (chain first left).pick u := by
  induction left generalizing first with
  | nil => rfl
  | cons b left ih =>
    obtain ⟨hb, hleft⟩ := List.forall_mem_cons.mp hleft
    change
        (if b.1 ≤ u then (chain b.2 (left ++ (bound, next) :: right)).pick u else first) =
      if bound ≤ u then (chain next right).pick u
      else if b.1 ≤ u then (chain b.2 left).pick u else first
    rw [ih hleft]
    by_cases hbound : bound ≤ u
    · rw [if_pos hbound, if_pos hbound, if_pos (LawfulOrder.trans hb hbound)]
    · rw [if_neg hbound, if_neg hbound]

/-- **How a stretch is split does not matter** for `pick`, if its bounds ascend.
By induction on `depth`. -/
theorem pick_balanced [LT α] [LawfulOrder α] {others : List (α × Vector α m)}
    (h : others.Pairwise fun b b' => b.1 ≤ b'.1) (u : α) (depth : Nat)
    (first : Vector α m) :
    (balanced depth first others).pick u = (chain first others).pick u := by
  induction depth generalizing first others with
  | zero => rfl
  | succ depth ih =>
    rw [balanced]
    split
    · rfl
    · rename_i left bound next right hsplit
      have hothers : others = left ++ (bound, next) :: right := by
        rw [List.splitAt_eq, Prod.mk.injEq] at hsplit
        rw [← hsplit.1, ← hsplit.2, List.take_append_drop]
      subst hothers
      obtain ⟨hleft, hright, hbounds⟩ := List.pairwise_append.mp h
      rw [pick, ih hleft, ih (List.pairwise_cons.mp hright).2,
        pick_chain_append fun b hb => hbounds b hb _ List.mem_cons_self]

/-- `pick u` of a chain is the location whose index is the number of bounds that
are at most `u`. -/
theorem pick_chain [LT α] [LawfulOrder α] {others : List (α × Vector α m)}
    (h : others.Pairwise fun b b' => b.1 ≤ b'.1) (u : α) (first : Vector α m) :
    (first :: others.map Prod.snd)[(others.map Prod.fst).countP
        fun bound => decide (bound ≤ u)]? =
      some ((chain first others).pick u) := by
  induction others generalizing first with
  | nil => rfl
  | cons b others ih =>
    obtain ⟨hb, hothers⟩ := List.pairwise_cons.mp h
    rw [chain, pick, List.map_cons, List.map_cons]
    split_ifs with hle
    · rw [List.countP_cons_of_pos (by simpa using hle),
        List.getElem?_cons_succ, ih hothers]
    · have hnone := countP_le_eq_zero hle (List.forall_mem_map.mpr hb)
      rw [List.countP_cons_of_neg (by simpa using hle), hnone,
        List.getElem?_cons_zero, pick]

end Stretch

variable [Add α]

/-- The partial sums of the weights: for each, the sum of all up to and with it. -/
def cumulative : List α → List α
  | [] => []
  | w :: rest => rest.scanl (· + ·) w

/-- How many of the `cumulative` sums are at most `u`, the total left out. -/
def sourceIndex (weights : List α) (u : α) : Nat :=
  (cumulative weights).dropLast.countP fun bound => decide (bound ≤ u)

omit [LE α] [DecidableLE α] in
theorem map_fst_places (place : α) (components : List (Component α m)) :
    (Picker.places place components).map Prod.fst =
      ((components.map Component.weight).scanl (· + ·) place).dropLast := by
  induction components generalizing place with
  | nil => rfl
  | cons c rest ih =>
    rw [Picker.places, List.map_cons, List.map_cons, List.scanl_cons,
      List.dropLast_cons_of_ne_nil List.scanl_ne_nil, ih]

omit [LE α] [DecidableLE α] in
theorem map_snd_places (place : α) (components : List (Component α m)) :
    (Picker.places place components).map Prod.snd =
      components.map Component.location := by
  induction components generalizing place with
  | nil => rfl
  | cons c rest ih => rw [Picker.places, List.map_cons, List.map_cons, ih]

variable [Zero α] [LT α] [LawfulSums α]

omit [DecidableLE α] in
/-- The sums of `scanl` do not descend. -/
theorem le_of_mem_scanl {w x : α} {rest : List α} (hw : 0 ≤ w) (hrest : ∀ v ∈ rest, 0 ≤ v)
    (hx : x ∈ rest.scanl (· + ·) w) : w ≤ x := by
  induction rest generalizing w with
  | nil =>
    rw [List.scanl_nil, List.mem_singleton] at hx
    subst hx
    exact (LawfulOrder.defined_of_le hw).2
  | cons v rest ih =>
    obtain ⟨hv, hrest⟩ := List.forall_mem_cons.mp hrest
    have hle : w ≤ w + v := LawfulSums.le_add_right hw hv
    rw [List.scanl_cons, List.mem_cons] at hx
    rcases hx with rfl | hx
    · exact (LawfulOrder.defined_of_le hle).1
    · exact LawfulOrder.trans hle (ih (LawfulOrder.trans hw hle) hrest hx)

omit [DecidableLE α] in
theorem pairwise_scanl {w : α} {rest : List α} (hw : 0 ≤ w) (hrest : ∀ v ∈ rest, 0 ≤ v) :
    (rest.scanl (· + ·) w).Pairwise (· ≤ ·) := by
  induction rest generalizing w with
  | nil => simp
  | cons v rest ih =>
    obtain ⟨hv, hothers⟩ := List.forall_mem_cons.mp hrest
    have hle : w ≤ w + v := LawfulSums.le_add_right hw hv
    have hsum := LawfulOrder.trans hw hle
    rw [List.scanl_cons]
    exact List.pairwise_cons.mpr
      ⟨fun x hx => LawfulOrder.trans hle (le_of_mem_scanl hsum hothers hx),
        ih hsum hothers⟩

/-- **The picked location, counted off**: it stands at `sourceIndex`. -/
theorem Picker.pick_ofCons {c : Component α m} {rest : List (Component α m)}
    (h : ∀ c' ∈ c :: rest, 0 ≤ c'.weight) (u : α) :
    ((c :: rest).map Component.location)[sourceIndex
        ((c :: rest).map Component.weight) u]? =
      some ((Picker.ofCons c rest).pick u) := by
  obtain ⟨hc, hrest⟩ := List.forall_mem_cons.mp h
  have hweights : ∀ v ∈ rest.map Component.weight, 0 ≤ v := by simpa using hrest
  have hsorted : (Picker.places c.weight rest).Pairwise fun b b' => b.1 ≤ b'.1 := by
    rw [← List.pairwise_map (f := Prod.fst), map_fst_places]
    exact (pairwise_scanl hc hweights).sublist (List.dropLast_sublist _)
  have hchain := Stretch.pick_chain hsorted u c.location
  rw [map_fst_places, map_snd_places] at hchain
  exact hchain.trans (congrArg some (Stretch.pick_balanced hsorted u _ _).symm)

/-- From a place `u` below the total, one comes to a weight that is not zero.
What is behind the first `bound` is searched in the rest, and to get there
without weight would be to pass a bound that is not at most `u`. -/
theorem exists_weight_of_bound {u w bound : α} {rest : List α} (hbound : 0 ≤ bound)
    (hw : 0 ≤ w) (hrest : ∀ v ∈ rest, 0 ≤ v) (hzero : ¬ 0 < w → bound ≤ u)
    (htotal : u < rest.foldl (· + ·) bound) :
    ∃ v, (w :: rest)[(rest.scanl (· + ·) bound).dropLast.countP
        fun bound => decide (bound ≤ u)]? = some v ∧
      0 < v := by
  induction rest generalizing w bound with
  | nil =>
    refine ⟨w, rfl, ?_⟩
    by_contra hneg
    exact (LawfulOrder.lt_iff.mp htotal).2 (hzero hneg)
  | cons v rest ih =>
    obtain ⟨hv, hothers⟩ := List.forall_mem_cons.mp hrest
    have hle : bound ≤ bound + v := LawfulSums.le_add_right hbound hv
    have hsum := LawfulOrder.trans hbound hle
    rw [List.scanl_cons, List.dropLast_cons_of_ne_nil List.scanl_ne_nil]
    -- if `u` reaches the first bound, the search goes on behind it; otherwise it
    -- reaches none, and `w` is picked
    by_cases hu : bound ≤ u
    · rw [List.countP_cons_of_pos (by simpa using hu), List.getElem?_cons_succ]
      refine ih hsum hv hothers (fun hneg => ?_) htotal
      exact LawfulOrder.trans
        (LawfulSums.add_le_of_isZero (LawfulOrder.defined_of_le hu).1 ⟨hv, hneg⟩) hu
    · have hnone := countP_le_eq_zero hu
        fun x (hx : x ∈ (rest.scanl (· + ·) (bound + v)).dropLast) =>
        LawfulOrder.trans hle (le_of_mem_scanl hsum hothers (List.mem_of_mem_dropLast hx))
      rw [List.countP_cons_of_neg (by simpa using hu), hnone]
      refine ⟨w, rfl, ?_⟩
      by_contra hneg
      exact hu (hzero hneg)

/-- **Locations without weight are never picked.** The weight at `sourceIndex`
is positive. -/
theorem exists_weight_sourceIndex {weights : List α}
    (hne : weights ≠ []) (hweights : ∀ w ∈ weights, 0 ≤ w)
    {u : α} (hu : 0 ≤ u) (htotal : u < totalOf weights) : ∃ w,
    weights[sourceIndex weights u]? = some w ∧ 0 < w := by
  cases weights with
  | nil => exact absurd rfl hne
  | cons w rest =>
    obtain ⟨hw, hrest⟩ := List.forall_mem_cons.mp hweights
    refine exists_weight_of_bound hw hw hrest (fun hneg => ?_) htotal
    obtain ⟨hzero, hdefined⟩ := LawfulOrder.defined_of_le hw
    exact LawfulOrder.trans (LawfulOrder.le_of_not_lt hzero hdefined hneg) hu

end Pick

/-! ## Draws -/

section Draws

variable [Zero α] [Add α] [Mul α] [LT α] [LE α] [DecidableLT α]
  [DecidableLE α] [RandomSource γ α]

/-- The stream after `t` candidates. -/
def streamAfter (p : Picker α m) (sigma : α) (g : γ) (t : Nat) : γ :=
  (fun g => (drawCandidate p sigma g).2)^[t] g

omit [Zero α] [LT α] [DecidableLT α] in
theorem streamAfter_succ (p : Picker α m) (sigma : α) (g : γ) (t : Nat) :
    streamAfter p sigma g (t + 1) = (drawCandidate p sigma (streamAfter p sigma g t)).2 :=
  Function.iterate_succ_apply' ..

/-- **Candidates one after another.** They are drawn in turn, and those with
`isValidLocation` kept. -/
theorem drawCandidates_eq (p : Picker α m) (sigma : α) (count : Nat) (g : γ) :
    drawCandidates p sigma count g =
      (((List.range count).map fun t =>
        (drawCandidate p sigma (streamAfter p sigma g t)).1).filter fun candidate =>
        isValidLocation candidate.toList, streamAfter p sigma g count) := by
  induction count generalizing g with
  | zero => rfl
  | succ count ih =>
    rw [List.range_succ_eq_map, List.map_cons, List.map_map, List.filter_cons]
    exact congrArg (fun drawn : List (Vector α m) × γ =>
      (if isValidLocation (drawCandidate p sigma g).1.toList then (drawCandidate p sigma
        g).1 :: drawn.1 else drawn.1, drawn.2)) (ih (drawCandidate p sigma g).2)

variable [Scalar α]

omit [Mul α] in
/-- `Picker.ofComponents` gives a picker iff the total weight is positive. -/
theorem Picker.ofComponents_eq_ok [LawfulOrder α] {components : List (Component α m)}
    {picker : Option (Picker α m)} (h : Picker.ofComponents components = .ok picker) :
    (¬ 0 < totalOf (components.map Component.weight) ∧ picker = none) ∨
    ∃ c rest, components = c :: rest ∧ (∀ c ∈ components, 0 ≤ c.weight) ∧
      0 < totalOf (components.map Component.weight) ∧
      Scalar.isFinite (totalOf (components.map Component.weight)) = true ∧
      picker = some (Picker.ofCons c rest) := by
  cases components with
  | nil =>
    refine .inl ⟨fun hpos => ?_, (Except.ok.inj h).symm⟩
    obtain ⟨hle, hnot⟩ := LawfulOrder.lt_iff.mp hpos
    exact hnot hle
  | cons c rest =>
    have htotal : (Picker.ofCons c rest).total =
        totalOf ((c :: rest).map Component.weight) :=
      rfl
    simp only [Picker.ofComponents, htotal] at h
    split_ifs at h with hweights hpos hfinite
    · exact .inl ⟨by simpa using hpos, (Except.ok.inj h).symm⟩
    · refine .inr ⟨c, rest, rfl, fun c hc => ?_, by simpa using hpos, hfinite,
        (Except.ok.inj h).symm⟩
      exact of_decide_eq_true (List.all_eq_true.mp hweights c hc)

/-- What has been drawn when `sampleCandidates` succeeds: nothing without
weight, and `count` candidates otherwise. -/
theorem sampleCandidates_eq_ok [LawfulOrder α] {components : List (Component α m)}
    {count : Nat} {sigma : α} {g : γ} {drawn : List (Vector α m) × γ}
    (h : sampleCandidates components count sigma g = .ok drawn) :
    (¬ 0 < totalOf (components.map Component.weight) ∧ drawn = ([], g)) ∨
    ∃ c rest, components = c :: rest ∧ (∀ c ∈ components, 0 ≤ c.weight) ∧
      0 < totalOf (components.map Component.weight) ∧
      Scalar.isFinite (totalOf (components.map Component.weight)) = true ∧
      drawn = drawCandidates (Picker.ofCons c rest) sigma count g := by
  unfold sampleCandidates at h
  split at h
  · cases hpicker : Picker.ofComponents components with
    | error fault =>
      rw [hpicker] at h
      cases h
    | ok picker =>
      rw [hpicker] at h
      rcases Picker.ofComponents_eq_ok hpicker with ⟨hpos, rfl⟩
        | ⟨c, rest, hcomponents, hweights, hpos, hfinite, rfl⟩
      · exact .inl ⟨hpos, (Except.ok.inj h).symm⟩
      · dsimp only at h
        split at h
        · cases h
        · exact .inr ⟨c, rest, hcomponents, hweights, hpos, hfinite,
            (Except.ok.inj h).symm⟩
  · cases h

end Draws

section Sampler

variable [Zero α] [One α] [Add α] [Mul α] [LT α] [LE α] [DecidableLT α]
  [DecidableLE α] [Scalar α]
variable [RandomSource γ α] [LawfulCoordinates α] [LawfulSums α]

omit [One α] [DecidableLT α] [LawfulCoordinates α] in
/-- One candidate: its place `u` is picked, its source has weight, and the noise
comes after the place. -/
theorem drawCandidate_source (hbelow : DrawsBelow γ α)
    {c : Component α m} {rest : List (Component α m)} {weights : List α}
    (hc : (c :: rest).map Component.weight = weights) (hweights : ∀ w ∈ weights, 0 ≤ w)
    (hpos : 0 < totalOf weights) (hfinite : Scalar.isFinite (totalOf weights) = true)
    (sigma : α) (g : γ) :
    ∃ (u : α) (after : γ) (noise location : Vector α m) (w : α),
      RandomSource.below (totalOf weights) g = (u, after) ∧
      drawVector RandomSource.normal m after =
        (noise, (drawCandidate (Picker.ofCons c rest) sigma g).2) ∧
      ((c :: rest).map Component.location)[sourceIndex weights u]? = some location ∧
      weights[sourceIndex weights u]? = some w ∧ 0 < w ∧
      (drawCandidate (Picker.ofCons c rest) sigma g).1 =
        Vector.zipWith (fun x z => x + sigma * z) location noise := by
  have htotal : (Picker.ofCons c rest).total = totalOf weights := congrArg totalOf hc
  have hne : weights ≠ [] := by
    rw [← hc]
    exact List.cons_ne_nil _ _
  obtain ⟨hlow, hhigh⟩ := hbelow (totalOf weights) g hpos hfinite
  have hnonneg : ∀ c' ∈ c :: rest, 0 ≤ c'.weight := by simpa [← hc] using hweights
  -- the place is drawn first, the noise from the stream that it leaves
  cases hu : (RandomSource.below (totalOf weights) g : α × γ) with
  | mk u after =>
    cases hnoise : (drawVector RandomSource.normal m after : Vector α m × γ) with
    | mk noise after' =>
      have hdraw : drawCandidate (Picker.ofCons c rest) sigma g =
          (Vector.zipWith (fun x z => x + sigma * z) ((Picker.ofCons c rest).pick u)
            noise, after') := by
        rw [drawCandidate, htotal, hu]
        dsimp only
        rw [hnoise]
      have hpick := Picker.pick_ofCons hnonneg u
      rw [hu] at hlow hhigh
      obtain ⟨w, hw, hwpos⟩ := exists_weight_sourceIndex hne hweights hlow hhigh
      rw [hc] at hpick
      exact ⟨u, after, noise, _, w, rfl, by rw [hnoise, hdraw], hpick, hw,
        hwpos, by rw [hdraw]⟩

omit [One α] [LawfulCoordinates α] [LawfulSums α] in
/-- `sampleTable` is `sampleCandidates` on the rows of the table with their
weights. -/
theorem sampleTable_eq_ok {locations : Table α} {weights : List α} {count : Nat}
    {sigma : α} {g : γ} {drawn : List (Vector α locations.cols) × γ}
    (h : sampleTable locations weights count sigma g = .ok drawn) :
    ∃ components : List (Component α locations.cols),
        components.map Component.weight = weights ∧
      components.map Component.location = locations.rowList ∧
      sampleCandidates components count sigma g = .ok drawn := by
  cases hzip : Component.zipTable .samplerWeights weights locations with
  | error fault =>
    rw [sampleTable, hzip] at h
    cases h
  | ok components =>
    rw [sampleTable_of_zipTable hzip] at h
    rw [Component.zipTable_eq_zip, Component.zip_eq_ok_iff] at hzip
    exact ⟨components, hzip.1, hzip.2, h⟩

/-- **What sampling returns.** If `sampleTable` succeeds, there are at most
`count` rows, as wide as the table, and all their coordinates are positive. They
come from draws one after another, `count` of them if there is weight and none
otherwise. A draw takes a place `u` from the stream and then noise for every
coordinate. Its source is the row at `sourceIndex weights u`, the number of
cumulative weights, the total left out, that are at most `u`; that row has a
positive weight, so a location without weight is never a source. The rows are
the valid ones among the sources with noise. -/
theorem sampleTable_sources (hbelow : DrawsBelow γ α)
    {locations : Table α} {weights : List α} {count : Nat}
    {sigma : α} {g g' : γ} {rows : List (Vector α locations.cols)}
    (h : sampleTable locations weights count sigma g = .ok (rows, g')) :
    rows.length ≤ count ∧ (∀ row ∈ rows, ∀ j, 0 < row.get j) ∧
    ∃ (drawn : Nat) (stream : Nat → γ) (candidate : Nat → Vector α locations.cols),
      drawn = (if 0 < totalOf weights then count else 0) ∧
      stream 0 = g ∧ stream drawn = g' ∧
      rows = ((List.range drawn).map candidate).filter
        (fun row => isValidLocation row.toList) ∧
      ∀ t < drawn, ∃ (u : α) (after : γ) (noise : Vector α locations.cols)
        (i : Fin locations.rows) (w : α),
        RandomSource.below (totalOf weights) (stream t) = (u, after) ∧
        drawVector RandomSource.normal locations.cols after = (noise, stream (t + 1)) ∧
        i.val = sourceIndex weights u ∧ weights[i.val]? = some w ∧ 0 < w ∧
        candidate t = Vector.zipWith (fun x z => x + sigma * z)
          (locations.row i) noise := by
  obtain ⟨components, hweights, hlocations, hsample⟩ := sampleTable_eq_ok h
  refine ⟨sampleCandidates_length_le hsample, inRegion_of_sampleCandidates hsample, ?_⟩
  -- without weight nothing is drawn; otherwise the `t`th candidate starts from
  -- the stream after `t` of them
  rcases sampleCandidates_eq_ok hsample with ⟨hpos, hdrawn⟩
    | ⟨c, rest, rfl, hnonneg, hpos, hfinite, hdrawn⟩
  · rw [hweights] at hpos
    cases hdrawn
    exact ⟨0, fun _ => g, fun _ => Vector.replicate _ 0, by rw [if_neg hpos],
      rfl, rfl, rfl, by simp⟩
  · rw [hweights] at hpos hfinite
    rw [drawCandidates_eq] at hdrawn
    cases hdrawn
    refine ⟨count, streamAfter (Picker.ofCons c rest) sigma g,
      fun t => (drawCandidate (Picker.ofCons c rest) sigma
        (streamAfter (Picker.ofCons c rest) sigma g t)).1, by
      rw [if_pos hpos], rfl, rfl, rfl, fun t _ => ?_⟩
    obtain ⟨u, after, noise, location, w, hu, hnoise, hlocation, hw, hwpos, hcandidate⟩ :=
      drawCandidate_source hbelow hweights (by simpa [← hweights] using hnonneg) hpos
        hfinite sigma (streamAfter (Picker.ofCons c rest) sigma g t)
    rw [hlocations, Table.rowList, Table.vectors, Vector.toList_ofFn,
      List.getElem?_ofFn] at hlocation
    split at hlocation
    · rename_i hi
      cases hlocation
      rw [← streamAfter_succ] at hnoise
      exact ⟨u, after, noise, ⟨_, hi⟩, w, hu, hnoise, rfl, hw, hwpos, hcandidate⟩
    · cases hlocation

end Sampler

/-- Six locations, of which the second and the fifth have weight. -/
def sparseLocations : Table Float :=
  .ofVectors #v[#v[1.0], #v[2.0], #v[3.0], #v[4.0], #v[5.0], #v[6.0]]

/-- No weight for the first location, for two in a row and for the last. -/
def sparseWeights : List Float := [0.0, 0.5, -0.0, 0.0, 0.25, 0.0]

/-- Three candidates of `Random.Generator` start at the second or the fifth
location. -/
theorem sampleTable_sources_sparse :
    DrawsBelow Random.Generator Float ∧
    ∃ rows g', sampleTable sparseLocations sparseWeights 3 0.5
        (Random.Generator.ofSeed 42) = .ok (rows, g') ∧
      rows.length ≤ 3 ∧ (∀ row ∈ rows, ∀ j, 0 < row.get j) ∧
      ∃ candidate : Nat → Vector Float 1,
        rows = ((List.range 3).map candidate).filter
          (fun row => isValidLocation row.toList) ∧
        ∀ t < 3, ∃ (i : Fin 6) (noise : Vector Float 1), (i = 1 ∨ i = 4) ∧
          candidate t = Vector.zipWith (fun x z => x + 0.5 * z)
            (sparseLocations.row i) noise := by
  refine ⟨drawsBelow_generator, ?_⟩
  have hzip : Component.zipTable .samplerWeights sparseWeights sparseLocations =
      .ok (List.zipWith Component.mk sparseWeights sparseLocations.rowList) := rfl
  have hnonneg : ∀ c ∈ List.zipWith Component.mk sparseWeights sparseLocations.rowList,
      0 ≤ c.weight := by
    decide +kernel
  have hsigma : isWidth (0.5 : Float) = true := by decide
  have hsample : ∃ drawn, sampleTable sparseLocations sparseWeights 3 0.5
      (Random.Generator.ofSeed 42) = .ok drawn := by
    rw [sampleTable_of_zipTable hzip]
    cases sampleCandidates_spec hnonneg 3 hsigma (Random.Generator.ofSeed 42) with
    | done drawn h => exact ⟨drawn, h⟩
    | unbounded _ hsum => exact absurd hsum (by decide +kernel)
    | crowded _ _ hcount => exact absurd hcount (by decide)
  obtain ⟨⟨rows, g'⟩, hsample⟩ := hsample
  obtain ⟨hlength, hpos, drawn, stream, candidate, hdrawn, -, -, hrows, hsources⟩ :=
    sampleTable_sources drawsBelow_generator hsample
  have htotal : 0 < totalOf sparseWeights := by decide
  rw [if_pos htotal] at hdrawn
  subst hdrawn
  refine ⟨rows, g', hsample, hlength, hpos, candidate, hrows, fun t ht => ?_⟩
  obtain ⟨u, after, noise, i, w, -, -, -, hw, hwpos, hcandidate⟩ := hsources t ht
  have hweights : ∀ i : Fin 6, 0 < sparseWeights[i.val]?.getD 0 →
      i = 1 ∨ i = 4 := by decide
  refine ⟨i, noise, hweights i ?_, hcandidate⟩
  rw [hw]
  exact hwpos

end ReachMixture
