import ReachMixture.LeastSquares.Design

/-!
# Bidiagonal form

A matrix with at least as many rows as columns is `U B Vᵀ`, where the columns of
`U` are orthonormal, `V` is orthogonal, and `B` has entries on its diagonal and
next to it only. Reflections bring the matrix into this form: one from the left
clears a column below the diagonal, one from the right clears a row behind the
entry next to the diagonal.

- `Reflection`, `Reflection.clearing`: a reflection, and the one that clears a
  vector but for one entry.
- `Frame`: a bidiagonal matrix with its two bases.
- `Frame.ofColumns`: the bidiagonal form of a matrix.
-/

namespace ReachMixture.LeastSquares

variable {n k : Nat}

/-- The map `x ↦ sign · (x - 2 ⟨axis, x⟩ axis)`. -/
structure Reflection (n : Nat) where
  /-- A unit vector. -/
  axis : Vector Float n
  /-- One or minus one. -/
  sign : Float

namespace Reflection

/-- The image `share * axis + sign * x` of a vector. -/
def apply (r : Reflection n) (x : Vector Float n) : Vector Float n :=
  let share := Vec.dot r.axis x * (-2.0 * r.sign)
  Vector.zipWith (fun a v => share * a + r.sign * v) r.axis x

/-- The sign `±1` of a number; zero counts as positive. -/
def signOf (x : Float) : Float := if 0.0 ≤ x then 1.0 else -1.0

/-- The reflection that takes `x` to `‖x‖` times the unit vector `p`, and `‖x‖`.
A vector whose squares are all rounded to zero needs no reflection. -/
def clearing (x : Vector Float n) (p : Fin n) : Option (Reflection n) × Float :=
  let square := Vec.dot x x
  let length := Float.sqrt square
  let sign := signOf (x.get p)
  let factor := (square + Float.abs (x.get p) * length) * 2.0
  if factor == 0.0 then (none, length)
  else
    let axis := (x.set p (x.get p + sign * length) p.isLt).map (· / Float.sqrt factor)
    let size := Vec.norm axis
    (some ⟨axis.map (· / size), -sign⟩, length)

end Reflection

/-- A bidiagonal matrix with two bases: the sum of
`diagonal i · left i (right i)ᵀ` and of `coupling i · left i (right (i + 1))ᵀ`. -/
structure Frame (n k : Nat) where
  /-- The entries on the diagonal. -/
  diagonal : Vector Float k
  /-- The entries next to the diagonal; the last one has no place and does not
  count. -/
  coupling : Vector Float k
  /-- Orthonormal vectors in the space of the rows. -/
  left : Vector (Vector Float n) k
  /-- Orthonormal vectors in the space of the coefficients. -/
  right : Vector (Vector Float k) k

/-- A matrix on its way to bidiagonal form, with the reflections that took it
there. -/
structure Elimination (n k : Nat) where
  /-- The columns as they stand after the reflections so far. -/
  columns : Vector (Vector Float n) k
  /-- The diagonal so far. -/
  diagonal : Vector Float k
  /-- The entries next to the diagonal so far. -/
  coupling : Vector Float k
  /-- The reflections from the left. -/
  left : Vector (Option (Reflection n)) k
  /-- The reflections from the right. -/
  right : Vector (Option (Reflection k)) k

namespace Elimination

/-- The elimination before its first reflection. -/
def start (columns : Vector (Vector Float n) k) : Elimination n k where
  columns := columns
  diagonal := Vector.replicate k 0.0
  coupling := Vector.replicate k 0.0
  left := Vector.replicate k none
  right := Vector.replicate k none

/-- Clears column `i` below the diagonal by a reflection from the left. -/
def clearColumn (h : k ≤ n) (e : Elimination n k) (i : Fin k) : Elimination n k :=
  let p := i.castLE h
  let column : Vector Float n := Vector.ofFn fun row =>
    if row < p then 0.0 else (e.columns.get i).get row
  let (reflection, length) := Reflection.clearing column p
  { e with
    columns := match reflection with
      | none => e.columns
      | some r =>
        Vector.ofFn fun j => if i < j then r.apply (e.columns.get j) else e.columns.get j
    diagonal := e.diagonal.set i length i.isLt
    left := e.left.set i reflection i.isLt }

/-- The columns after the reflection `r` of all rows. -/
def reflectRows (r : Reflection k) (columns : Vector (Vector Float n) k) :
    Vector (Vector Float n) k :=
  let shares : Vector Float n :=
    Vector.ofFn fun row => Vec.sum k fun j => r.axis.get j * (columns.get j).get row
  Vector.zipWith (fun a column => Vector.zipWith
    (fun s v => -2.0 * r.sign * a * s + r.sign * v) shares column) r.axis columns

/-- Clears row `i` behind the entry next to the diagonal by a reflection from
the right. -/
def clearRow (h : k ≤ n) (e : Elimination n k) (i : Fin k) : Elimination n k :=
  if hi : i.val + 1 < k then
    let row : Vector Float k := Vector.ofFn fun j =>
      if j ≤ i then 0.0 else (e.columns.get j).get (i.castLE h)
    let (reflection, length) := Reflection.clearing row ⟨i.val + 1, hi⟩
    { e with
      columns := match reflection with
        | none => e.columns
        | some r => reflectRows r e.columns
      coupling := e.coupling.set i length i.isLt
      right := e.right.set i reflection i.isLt }
  else e

/-- `clearColumn` and `clearRow` for every index, first to last. -/
def run (h : k ≤ n) (columns : Vector (Vector Float n) k) : Elimination n k :=
  (List.finRange k).foldl (fun e i => (e.clearColumn h i).clearRow h i) (start columns)

/-- The unit vector `p`. -/
def unit (p : Fin n) : Vector Float n := Vector.ofFn fun i => if i = p then 1.0 else 0.0

/-- `Reflection.apply`, or the identity for `none`. -/
def reflect (r : Option (Reflection n)) (x : Vector Float n) : Vector Float n :=
  match r with
  | none => x
  | some r => r.apply x

/-- The product of the reflections from the left, applied to the first `k` unit
vectors. -/
def leftBasis (h : k ≤ n) (e : Elimination n k) : Vector (Vector Float n) k :=
  (List.finRange k).foldr
    (fun i vs => Vector.ofFn fun j =>
      if j < i then vs.get j else reflect (e.left.get i) (vs.get j))
    (Vector.ofFn fun j => unit (j.castLE h))

/-- The product of the reflections from the right, applied to the unit vectors. -/
def rightBasis (e : Elimination n k) : Vector (Vector Float k) k :=
  (List.finRange k).foldr
    (fun i vs => Vector.ofFn fun j =>
      if i < j then reflect (e.right.get i) (vs.get j) else vs.get j)
    (Vector.ofFn unit)

end Elimination

/-- The bidiagonal form of a matrix with `k ≤ n`. -/
def Frame.ofColumns (h : k ≤ n) (columns : Vector (Vector Float n) k) : Frame n k :=
  let e := Elimination.run h columns
  ⟨e.diagonal, e.coupling, e.leftBasis h, e.rightBasis⟩

end ReachMixture.LeastSquares
