import ReachMixture.LeastSquares.Bidiagonal

/-!
# Singular values

A matrix is written as a sum of `value · left rightᵀ` with orthonormal left
vectors and orthonormal right vectors. The matrix is brought to bidiagonal form,
and rotations of neighbouring vectors then remove the entries next to the
diagonal: sweeps with a shift make the last of them small, a block of two is
solved at once, and an entry that is negligible beside its neighbours is
dropped. A diagonal entry that is negligible beside the largest entry of the
matrix counts as zero, but only as long as an entry next to it does not. A
matrix with more columns than rows is transposed first.

- `Mode`: one summand of the decomposition.
- `Rotation`: a rotation of a plane.
- `Frame.delimit`, `Frame.sweep`, `Frame.solvePair`: the steps.
- `modes`: the decomposition.
-/

namespace ReachMixture.LeastSquares

variable {n k : Nat}

/-! ## Rotations -/

/-- The rotation `(x, y) ↦ (c x - s y, s x + c y)`. -/
structure Rotation where
  /-- The cosine of the angle. -/
  c : Float
  /-- The sine of the angle. -/
  s : Float

namespace Rotation

/-- The rotation by the angle zero. -/
def identity : Rotation := ⟨1.0, 0.0⟩

/-- The rotation by the opposite angle. -/
def inverse (r : Rotation) : Rotation := ⟨r.c, -r.s⟩

/-- The rotation, by a right angle at most, that takes `(x, y)` to
`(length, 0)`, with the signed `length`; none if `y` is zero. -/
def clearSecond (x y : Float) : Option (Rotation × Float) :=
  if y == 0.0 then none
  else
    let length := Float.sqrt (x * x + y * y)
    let sign := Reflection.signOf x
    some (⟨Float.abs x / length, -y / (sign * length)⟩, sign * length)

/-- The rotation, by a right angle at most, that takes `(x, y)` to
`(0, length)`, with the signed `length`; none if `x` is zero. -/
def clearFirst (x y : Float) : Option (Rotation × Float) :=
  if x == 0.0 then none
  else
    let length := Float.sqrt (y * y + x * x)
    let sign := Reflection.signOf y
    some (⟨Float.abs y / length, x * sign / length⟩, sign * length)

/-- The rotation whose cosine and sine are proportional to `x` and `y`, turned
around if the cosine were negative, and the sign that tells whether it was
turned. -/
def along (x y : Float) : Rotation × Float :=
  let length := Float.sqrt (x * x + y * y)
  let sign := Reflection.signOf x
  if 0.0 < length then (⟨Float.abs x / length, y / (sign * length)⟩, sign)
  else (identity, 1.0)

/-- `c u - s v`. -/
def blend (c s : Float) (u v : Vector Float n) : Vector Float n :=
  Vector.zipWith (fun x y => c * x - s * y) u v

/-- Rotates the vectors at places `p` and `q` of a family. -/
def turn (r : Rotation) (vs : Vector (Vector Float n) k) (p q : Nat) :
    Vector (Vector Float n) k :=
  match vs[p]?, vs[q]? with
  | some u, some v =>
    (vs.setIfInBounds p (blend r.c r.s u v)).setIfInBounds q (blend r.c (-r.s) v u)
  | _, _ => vs

end Rotation

/-! ## Steps on a frame -/

/-- The entry at place `i`; zero behind the last one. -/
def entryAt (v : Vector Float k) (i : Nat) : Float := v[i]?.getD 0.0

/-- `5 ε`: entries up to this size are negligible beside one. -/
def negligible : Float := 5.0 * Scalar.epsilon

namespace Frame

/-- Sets entry `i` of the diagonal; no effect behind its end. -/
def setDiagonal (f : Frame n k) (i : Nat) (x : Float) : Frame n k :=
  { f with diagonal := f.diagonal.setIfInBounds i x }

/-- Sets the entry next to the diagonal in row `i`; no effect behind the end. -/
def setCoupling (f : Frame n k) (i : Nat) (x : Float) : Frame n k :=
  { f with coupling := f.coupling.setIfInBounds i x }

/-- Moves the entry `x` of row `i` in column `j + 1` to the right, out of the
block, by rotations with the rows below, `remaining` of them. -/
def pushRight (f : Frame n k) (i : Nat) (x : Float) (j : Nat) :
    (remaining : Nat) → Frame n k
  | 0 => f
  | remaining + 1 =>
    match Rotation.clearFirst x (entryAt f.diagonal (j + 1)) with
    | none => f
    | some (r, length) =>
      let f := { f.setDiagonal (j + 1) length with left := r.turn f.left i (j + 1) }
      if remaining = 0 then f
      else
        let next := entryAt f.coupling (j + 1)
        (f.setCoupling (j + 1) (next * r.c)).pushRight i (-r.s * next) (j + 1) remaining

/-- Clears the entry `y` of row `j` in column `i + 1` by a rotation of two
columns, if it is not zero. -/
def absorb (f : Frame n k) (i : Nat) (y : Float) (j : Nat) :
    Frame n k × Option Rotation :=
  match Rotation.clearSecond (entryAt f.diagonal j) y with
  | none => (f, none)
  | some (r, length) =>
    ({ f.setDiagonal j length with right := r.turn f.right j (i + 1) }, some r)

/-- Moves the entry `y` of row `j` in column `i + 1` upward, out of the block,
by rotations with the columns before it. -/
def pushUp (f : Frame n k) (i : Nat) (y : Float) : (j : Nat) → Frame n k
  | 0 => (f.absorb i y 0).1
  | above + 1 =>
    match f.absorb i y (above + 1) with
    | (f, none) => f
    | (f, some r) =>
      let next := entryAt f.coupling above
      (f.setCoupling above (next * r.c)).pushUp i (r.s * next) above

/-- Clears the entry next to the diagonal in row `i`, whose diagonal entry is
zero, up to column `stop`. -/
def clearRow (f : Frame n k) (i stop : Nat) : Frame n k :=
  (f.setCoupling i 0.0).pushRight i (entryAt f.coupling i) i (stop - i)

/-- Clears the entry next to the diagonal in column `i + 1`, whose diagonal
entry is zero. -/
def clearColumn (f : Frame n k) (i : Nat) : Frame n k :=
  (f.setCoupling i 0.0).pushUp i (entryAt f.coupling i) i

/-- Makes the diagonal entry `i` zero and decouples it from the block that ends
at `stop`. -/
def dropDiagonal (f : Frame n k) (i stop : Nat) : Frame n k :=
  let f := (f.setDiagonal i 0.0).clearRow i stop
  match i with
  | 0 => f
  | above + 1 => f.clearColumn above

/-- Whether the entry next to the diagonal in row `i` is `negligible` beside the
two diagonal entries around it. -/
def isLoose (f : Frame n k) (i : Nat) : Bool :=
  let size := Float.abs (entryAt f.coupling i)
  size == 0.0
    || size ≤ negligible * (Float.abs (entryAt f.diagonal (i + 1)) +
      Float.abs (entryAt f.diagonal i))

/-- Whether diagonal entry `i` is `negligible`. -/
def isSmall (f : Frame n k) (i : Nat) : Bool :=
  Float.abs (entryAt f.diagonal i) ≤ negligible

/-- Splits finished entries off at the end of the block; the number is where the
unfinished part ends. -/
def trimEnd (f : Frame n k) : (stop : Nat) → Frame n k × Nat
  | 0 => (f, 0)
  | m + 1 =>
    if f.isLoose m then (f.setCoupling m 0.0).trimEnd m
    else if f.isSmall m then (f.dropDiagonal m (m + 1)).trimEnd m
    else if f.isSmall (m + 1) then ((f.setDiagonal (m + 1) 0.0).clearColumn m).trimEnd m
    else (f, m + 1)

/-- Looks backward from `start` for the place where the block that ends at
`stop` begins. -/
def findStart (f : Frame n k) (stop : Nat) : (start : Nat) → Frame n k × Nat
  | 0 => (f, 0)
  | m + 1 =>
    if f.isLoose m then (f.setCoupling m 0.0, m + 1)
    else if f.isSmall m then (f.dropDiagonal m stop, m + 1)
    else f.findStart stop m

/-- The last unfinished block up to `stop`: its first and its last place, equal
if nothing is unfinished. -/
def delimit (f : Frame n k) (stop : Nat) : Frame n k × Nat × Nat :=
  match f.trimEnd stop with
  | (f, 0) => (f, 0, 0)
  | (f, m + 1) =>
    let (f, start) := f.findStart (m + 1) m
    (f, start, m + 1)

/-- The eigenvalue of the symmetric matrix with entries `a`, `c`, `b` that is
closer to `b`. -/
def nearerEigenvalue (a b c : Float) : Float :=
  let square := c * c
  if square == 0.0 then b
  else
    let d := (a - b) * 0.5
    b - square / (d + Reflection.signOf d * Float.sqrt (d * d + square))

/-- Moves the entry `y` that stands outside of the three diagonals down to the
end of the block, row by row. -/
def chase (f : Frame n k) (start : Nat) (x y : Float) (j : Nat) :
    (remaining : Nat) → Frame n k
  | 0 => f
  | remaining + 1 =>
    match Rotation.clearSecond x y with
    | none => f
    | some (r, length) =>
      let f := if start < j then f.setCoupling (j - 1) length else f
      let d := entryAt f.diagonal j
      let e := entryAt f.coupling j
      let below := entryAt f.diagonal (j + 1)
      let next := if remaining = 0 then 0.0 else entryAt f.coupling (j + 1)
      let a := r.c * d - r.s * e
      let b := r.s * d + r.c * e
      let c := -r.s * below
      let below := r.c * below
      let (q, length) := (Rotation.clearSecond a c).getD (.identity, a)
      let f := (f.setDiagonal j length).setDiagonal (j + 1) (q.s * b + q.c * below)
      let e := q.c * b - q.s * below
      let f := f.setCoupling j e
      let f := if remaining = 0 then f else f.setCoupling (j + 1) (q.c * next)
      let f :=
        { f with left := q.turn f.left j (j + 1), right := r.turn f.right j (j + 1) }
      f.chase start e (-q.s * next) (j + 1) remaining

/-- A QR sweep over a block of three or more, shifted by the `nearerEigenvalue`
of its last two rows. -/
def sweep (f : Frame n k) (start stop : Nat) : Frame n k :=
  let dm := entryAt f.diagonal (stop - 1)
  let dn := entryAt f.diagonal stop
  let fm := entryAt f.coupling (stop - 1)
  let fl := entryAt f.coupling (stop - 2)
  let shift := nearerEigenvalue (dm * dm + fl * fl) (dn * dn + fm * fm) (dm * fm)
  let d := entryAt f.diagonal start
  f.chase start (d * d - shift) (d * entryAt f.coupling start) start (stop - start)

/-- Solves a block of two rows at `i`. The smaller singular value comes first;
it is a quotient and so free of cancellation. -/
def solvePair (f : Frame n k) (i : Nat) : Frame n k :=
  let a := entryAt f.diagonal i
  let b := entryAt f.coupling i
  let d := entryAt f.diagonal (i + 1)
  let double := Float.sqrt ((a + d) * (a + d) + b * b) +
    Float.sqrt ((a - d) * (a - d) + b * b)
  let small := a * d * 2.0 / double
  let (v, turned) := Rotation.along (a * b) (small * small - a * a)
  let small := small * turned
  let large := 0.5 * double * turned
  let (u, turned) := Rotation.along ((a * v.c + b * v.s) / small) (d * v.s / small)
  let f := ((f.setDiagonal i (small * turned)).setDiagonal (i + 1)
    (large * turned)).setCoupling i 0.0
  { f with
    left := u.inverse.turn f.left i (i + 1)
    right := v.inverse.turn f.right i (i + 1) }

/-- Removes the entries next to the diagonal up to `stop`, in `limit` steps at
most. The recursion is on `limit`. -/
def settle (f : Frame n k) (stop : Nat) : (limit : Nat) → Frame n k
  | 0 => f
  | limit + 1 =>
    match f.delimit stop with
    | (f, start, stop) =>
      if start = stop then f
      else if start + 1 < stop then (f.sweep start stop).settle stop limit
      else (f.solvePair start).settle (stop - 1) limit

end Frame

namespace Spectrum

/-! ## The decomposition -/

/-- One summand `value · left rightᵀ` of a matrix with `n` rows and `k` columns. -/
structure Mode (n k : Nat) where
  /-- The singular value. -/
  value : Float
  /-- A unit vector of the row space's image. -/
  left : Vector Float n
  /-- A unit vector of coefficients. -/
  right : Vector Float k

/-- The same summand of the transposed matrix. -/
def Mode.transpose (m : Mode n k) : Mode k n := ⟨m.value, m.right, m.left⟩

/-- The modes of a settled frame with all singular values multiplied by `scale`.
Negative ones are made positive by turning the left vector around. -/
def modesOf (f : Frame n k) (scale : Float) : List (Mode n k) :=
  (List.finRange k).map fun j =>
    let value := f.diagonal.get j * scale
    let left := f.left.get j
    if value < 0.0 then ⟨-value, left.map (- ·), f.right.get j⟩
    else ⟨value, left, f.right.get j⟩

/-- The steps after which a frame of `k` columns counts as settled; in practice
a few per column are needed. -/
def stepLimit (k : Nat) : Nat := 1000 * (k + 1)

/-- The largest absolute entry, or `1` for a matrix of zeros. -/
def peak (columns : Vector (Vector Float n) k) : Float :=
  let m :=
    columns.foldl (fun m c => c.foldl (fun m v => Vec.larger m (Float.abs v)) m) 0.0
  if m == 0.0 then 1.0 else m

/-- The decomposition of a matrix with `k ≤ n`, which is scaled to entries of
size `1` at most and back again. -/
def tallModes (h : k ≤ n) (columns : Vector (Vector Float n) k) : List (Mode n k) :=
  let scale := peak columns
  let frame := Frame.ofColumns h (columns.map fun c => c.map (· / scale))
  modesOf (frame.settle (k - 1) (stepLimit k)) scale

/-- The rows of a matrix given by its `columns`. -/
def transpose (columns : Vector (Vector Float n) k) : Vector (Vector Float k) n :=
  Vector.ofFn fun i => columns.map fun column => column.get i

/-- The singular value decomposition of a matrix. A matrix with fewer rows than
columns goes through its transpose. -/
def modes (columns : Vector (Vector Float n) k) : List (Mode n k) :=
  if h : k ≤ n then tallModes h columns
  else (tallModes (Nat.le_of_lt (Nat.lt_of_not_le h)) (transpose columns)).map
    Mode.transpose

end Spectrum

end ReachMixture.LeastSquares
