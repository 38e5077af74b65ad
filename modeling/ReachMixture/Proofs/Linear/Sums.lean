import Mathlib
import ReachMixture.Linear.Vec

/-!
# Sums in exact arithmetic

Vectors are summed by running folds, first entry to last. Without rounding the
order does not matter, and the folds are the finite sums of algebra:

- `Vec.sum_eq`, `Vec.dot_eq`: running sums and inner products as `∑`.
- `Vec.sum_list`: a running sum along a list of columns as a sum over the
  columns that are in it.
- `Vec.le_larger`: the largest column never falls below its start.
-/

namespace ReachMixture.Vec

variable {α : Type} {n k : Nat}

section Sums

variable [AddCommMonoid α]

/-- `Vec.sum`, a running sum, is the finite sum `∑ i, f i`. -/
theorem sum_eq (f : Fin n → α) : Vec.sum n f = ∑ i, f i := by
  have hfold : ∀ (l : List (Fin n)) (c : α),
      l.foldl (fun acc i => acc + f i) c = c + (l.map f).sum := by
    intro l
    induction l with
    | nil => intro c; simp
    | cons i l ih => intro c; simp [ih, add_assoc]
  rw [Vec.sum, Fin.foldl_eq_finRange_foldl, hfold, zero_add, Fin.sum_univ_def]

/-- `Vec.sum` along the columns with `p`, listed in ascending order, is the sum
over all columns in which the others count as zero. -/
theorem sum_list (p : Fin k → Bool) (f : Fin k → α) :
    Vec.sum ((List.finRange k).filter p).length
        (fun q => f (((List.finRange k).filter p).get q)) =
      ∑ j, if p j then f j else 0 := by
  rw [sum_eq, ← Finset.sum_filter]
  have hlist : ∀ l : List (Fin k), ∑ q, f (l.get q) = (l.map f).sum := by
    intro l
    rw [← Fin.sum_univ_fun_getElem]
    rfl
  rw [hlist, ← List.sum_toFinset f ((List.nodup_finRange k).filter _)]
  refine Finset.sum_congr ?_ fun _ _ => rfl
  ext j
  simp

theorem sum_get (v : Vector α n) : ∑ i, v.get i = v.toList.sum := by
  rw [← List.sum_ofFn]
  congr 1
  refine List.ext_getElem (by simp) fun i hi hi' => ?_
  simp [Vector.get_eq_getElem]

end Sums

/-- `Vec.dot` as a finite sum. -/
theorem dot_eq [NonUnitalNonAssocSemiring α] (u v : Vector α n) :
    Vec.dot u v = ∑ i, u.get i * v.get i := by
  rw [Vec.dot, sum_eq]

theorem le_larger [LinearOrder α] (m v : α) : m ≤ larger m v := by
  unfold larger
  split
  · rename_i h
    exact le_of_lt h
  · exact le_refl m

end ReachMixture.Vec
