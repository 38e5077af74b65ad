import ReachMixture.Proofs.Fit.Outcome
import ReachMixture.Proofs.LeastSquares.Cost

/-!
# Predictions in exact arithmetic

A fit looks at the same prediction from two sides: the mixture sums over its
components, one audience at a time, and the solver multiplies the columns of its
problem with coefficients. Without rounding these agree, and a component without
weight counts for neither.

- `predict_get`: a prediction as a sum over the components.
- `Observations.predict_design`: the prediction of a pool is the product of its
  problem's columns and coefficients.
- `Observations.predict_of_prune`: pruning does not change the prediction,
  unless there are negative coefficients.
- `Mixture.padded`: the weights of a mixture as coefficients for a larger pool.
- `Observations.cost`: the squared distance of a mixture's prediction from the
  observed reach.
-/

namespace ReachMixture

variable {α : Type} {n m : Nat}

section Predict

variable [Field α] [Scalar α]

theorem predict_get (components : List (Component α m))
    (signal : Vector (Vector α m) n) (row : Fin n) :
    (predict components signal).get row =
      (components.map fun c => c.weight *
        partialReach (Vec.dot c.location (signal.get row))).sum := by
  rw [predict, Vector.get_map, List.sum_eq_foldl, List.foldl_map]

theorem predict_append (xs ys : List (Component α m))
    (signal : Vector (Vector α m) n) (row : Fin n) :
    (predict (xs ++ ys) signal).get row =
      (predict xs signal).get row + (predict ys signal).get row := by
  simp only [predict_get, List.map_append, List.sum_append]

/-- Components that `keep` drops do not count for `predict` if their weights are
zero. -/
theorem predict_filter {components : List (Component α m)} {keep : Component α m → Bool}
    (h : ∀ c ∈ components, keep c = false → c.weight = 0)
    (signal : Vector (Vector α m) n) (row : Fin n) :
    (predict (components.filter keep) signal).get row =
      (predict components signal).get row := by
  rw [predict_get, predict_get]
  induction components with
  | nil => rfl
  | cons c rest ih =>
    obtain ⟨hc, hrest⟩ := List.forall_mem_cons.mp h
    rw [List.filter_cons]
    split
    · rw [List.map_cons, List.sum_cons, ih hrest, List.map_cons, List.sum_cons]
    · rename_i hkeep
      rw [ih hrest, List.map_cons, List.sum_cons,
        hc (Bool.not_eq_true _ ▸ hkeep), zero_mul, zero_add]

omit [Field α] [Scalar α] in
theorem zipWith_toList {β δ : Type} (f : α → β → δ) (pool : List β)
    (x : Vector α pool.length) :
    List.zipWith f x.toList pool = List.ofFn fun j => f (x.get j) (pool.get j) := by
  refine List.ext_getElem (by simp) fun i hi hi' => ?_
  simp [Vector.get_eq_getElem]

namespace Observations

variable (o : Observations α)

theorem design_column (pool : List (Vector α o.dims)) (j : Fin pool.length)
    (row : Fin o.rows) :
    ((o.design pool).columns.get j).get row =
      partialReach (Vec.dot (pool.get j) (o.signal.get row)) := by
  simp [Observations.design, ReachMixture.design, Vec.ofList, reachRow,
    Vector.get_eq_getElem]

/-- **The prediction of a pool** with the weights `x` is
`(o.design pool).predict x`, the product of its columns and `x`. -/
theorem predict_design (pool : List (Vector α o.dims)) (x : Vector α pool.length) :
    predict (List.zipWith Component.mk x.toList pool) o.signal =
      (o.design pool).predict x := by
  refine Vector.ext fun row hrow => ?_
  show (predict _ o.signal).get ⟨row, hrow⟩ = ((o.design pool).predict x).get ⟨row, hrow⟩
  rw [predict_get, LeastSquares.Design.predict_get, zipWith_toList,
    List.map_ofFn, List.sum_ofFn]
  refine Finset.sum_congr rfl fun j _ => ?_
  rw [design_column]
  exact mul_comm _ _

end Observations

end Predict

/-! ## Pruned mixtures -/

section Ordered

variable [Field α] [LinearOrder α] [Scalar α] [ExactScalar α]

theorem carriesWeight_eq (w : α) : carriesWeight w = decide (0 < w) := by
  rw [carriesWeight, ExactScalar.isFinite_eq_true, Bool.true_and]

namespace Observations

variable (o : Observations α)

/-- **Pruning does not change the prediction**: what `prune` drops has a
coefficient of zero, if none is negative. -/
theorem predict_of_prune {pool : List (Vector α o.dims)} {x : Vector α pool.length}
    (hx : ∀ j, 0 ≤ x.get j) {y : Mixture α o.dims} (h : prune pool x.toList = .ok y) :
    predict y.components o.signal = (o.design pool).predict x := by
  have hzero : ∀ c ∈ List.zipWith Component.mk x.toList pool,
      carriesWeight c.weight = false → c.weight = 0 := by
    intro c hc hdropped
    rw [zipWith_toList] at hc
    obtain ⟨j, rfl⟩ := List.mem_ofFn.mp hc
    rw [carriesWeight_eq, decide_eq_false_iff_not, not_lt] at hdropped
    exact le_antisymm hdropped (hx j)
  rw [← o.predict_design, (prune_eq_ok h).2]
  refine Vector.ext fun row hrow => ?_
  exact predict_filter hzero o.signal ⟨row, hrow⟩

/-- `prune` succeeds if there is one coefficient per location. -/
theorem exists_prune (pool : List (Vector α o.dims)) (x : Vector α pool.length) :
    ∃ y, prune pool x.toList = .ok y :=
  ⟨_, (prune_eq pool x.toList).trans (if_pos Vector.length_toList)⟩

/-- The squared distance between the prediction of `x` and the observed reach. -/
def cost (x : Mixture α o.dims) : α :=
  let r := Vector.zipWith (· - ·) (predict x.components o.signal) o.target
  Vec.dot r r

omit [ExactScalar α] in
theorem cost_eq_design_cost {pool : List (Vector α o.dims)}
    {x : Vector α pool.length} {y : Mixture α o.dims}
    (h : predict y.components o.signal = (o.design pool).predict x) :
    o.cost y = (o.design pool).cost x := by
  rw [cost, h]
  rfl

end Observations

/-! ## Larger pools -/

namespace Mixture

omit [ExactScalar α]

/-- The weights of `x` as coefficients for its locations and further candidates,
which get zeros. -/
def padded (x : Mixture α m) (candidates : List (Vector α m)) :
    Vector α (x.locations ++ candidates).length :=
  Vec.ofList (x.weights ++ List.replicate candidates.length 0) <| by
    rw [List.length_append, List.length_replicate, List.length_append, x.length_weights]

theorem toList_padded (x : Mixture α m) (candidates : List (Vector α m)) :
    (x.padded candidates).toList = x.weights ++ List.replicate candidates.length 0 := rfl

theorem padded_nonneg [ExactScalar α] (x : Mixture α m) (candidates : List (Vector α m))
    (j : Fin (x.locations ++ candidates).length) : 0 ≤ (x.padded candidates).get j := by
  have hmem : (x.padded candidates).get j ∈
      x.weights ++ List.replicate candidates.length 0 := by
    rw [← toList_padded, Vector.mem_toList_iff]
    exact Vector.getElem_mem j.isLt
  rcases List.mem_append.mp hmem with hold | hnew
  · obtain ⟨c, hc, heq⟩ := List.mem_map.mp hold
    rw [← heq]
    exact x.weight_nonneg c hc
  · rw [List.eq_of_mem_replicate hnew]

theorem sum_padded (x : Mixture α m) (candidates : List (Vector α m)) :
    ∑ j, (x.padded candidates).get j = x.weights.sum := by
  rw [Vec.sum_get, toList_padded, List.sum_append, List.sum_replicate,
    smul_zero, add_zero]

/-- Candidates without weight do not change the prediction. -/
theorem predict_padded {o : Observations α} (x : Mixture α o.dims)
    (candidates : List (Vector α o.dims)) :
    (o.design (x.locations ++ candidates)).predict (x.padded candidates) =
      predict x.components o.signal := by
  have hnew : ∀ row, (predict (List.zipWith Component.mk
      (List.replicate candidates.length 0) candidates) o.signal).get row = 0 := by
    intro row
    rw [predict_get]
    refine List.sum_eq_zero fun v hv => ?_
    obtain ⟨c, hc, rfl⟩ := List.mem_map.mp hv
    obtain ⟨i, hi, rfl⟩ := List.getElem_of_mem hc
    rw [List.getElem_zipWith, List.getElem_replicate, zero_mul]
  rw [← o.predict_design, toList_padded, List.zipWith_append x.length_weights,
    x.zipWith_weights_locations]
  refine Vector.ext fun row hrow => ?_
  show (predict _ o.signal).get ⟨row, hrow⟩ =
    (predict x.components o.signal).get ⟨row, hrow⟩
  rw [predict_append, hnew, add_zero]

end Mixture

end Ordered

end ReachMixture
