import ReachMixture.LeastSquares.Spectrum

/-!
# Least squares without constraints

The shortest of all coefficient vectors that come closest to the target.
Singular values up to a cutoff are treated as zero. Nearly equal columns are
common here, so the cutoff is loosened step by step until every coefficient is
finite.
-/

namespace ReachMixture.LeastSquares

variable {n k : Nat}

/-- The pseudoinverse solution `∑ (⟨left, target⟩ / value) right` over the modes
whose singular value exceeds `cutoff`. -/
def solveAbove (modes : List (Spectrum.Mode n k))
    (target : Vector Float n) (cutoff : Float) :
    Vector Float k :=
  modes.foldl
    (fun x m =>
      if cutoff < m.value then
        let share := Vec.dot m.left target / m.value
        Vector.zipWith (fun xi ri => xi + share * ri) x m.right
      else x)
    (Vector.replicate k 0.0)

/-- The cutoffs that are tried, strictest first. -/
def cutoffs : List Float := [1e-12, 1e-10, 1e-8]

/-- The minimum-norm least-squares solution at the first of `cutoffs` that gives
finite coefficients. -/
def Design.minimumNorm (d : Design Float n k) : Option (Vector Float k) :=
  let modes := Spectrum.modes d.columns
  cutoffs.findSome? fun cutoff =>
    let x := solveAbove modes d.target cutoff
    if x.all Float.isFinite then some x else none

end ReachMixture.LeastSquares
