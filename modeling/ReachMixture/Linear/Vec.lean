import ReachMixture.Scalar

/-!
# Vectors

Sums, inner products and norms of vectors of a fixed length. Sums run from the
first index to the last and start at zero; norms are square roots of plain sums
of squares.
-/

namespace ReachMixture.Vec

variable {α : Type} {n : Nat}

/-- The vector of a list `xs` with `n` entries. -/
def ofList (xs : List α) (h : xs.length = n) : Vector α n :=
  ⟨xs.toArray, List.size_toArray.trans h⟩

/-- The sum of `f i` over all indices below `n`, first to last. -/
@[inline] def sum [Zero α] [Add α] (n : Nat) (f : Fin n → α) : α :=
  Fin.foldl n (fun acc i => acc + f i) 0

/-- The inner product `∑ i, u i * v i`, summed first to last. -/
def dot [Zero α] [Add α] [Mul α] (u v : Vector α n) : α :=
  sum n fun i => u.get i * v.get i

/-- The Euclidean norm `√(v · v)`. -/
def norm [Zero α] [Add α] [Mul α] [Scalar α] (v : Vector α n) : α :=
  Scalar.sqrt (dot v v)

/-- The Euclidean distance `‖u - v‖`. -/
def distance [Zero α] [Add α] [Sub α] [Mul α] [Scalar α] (u v : Vector α n) : α :=
  norm (Vector.zipWith (· - ·) u v)

/-- `|v|`, which is never a negative zero: `v ≤ 0` gives `0 - v`. An undefined
`v` stays undefined. -/
def magnitude [Zero α] [Sub α] [LE α] [DecidableLE α] (v : α) : α :=
  if v ≤ 0 then 0 - v else v

/-- The sum norm `∑ i, |v i|`. -/
def norm₁ [Zero α] [Add α] [Sub α] [LE α] [DecidableLE α] (v : Vector α n) : α :=
  sum n fun i => magnitude (v.get i)

/-- `max m v`, except that an undefined newcomer `v` is ignored. -/
def larger [LT α] [DecidableLT α] (m v : α) : α :=
  if m < v then v else m

end ReachMixture.Vec
