import ReachMixture.Linear.Vec

/-!
# Tables

A rectangular table of numbers whose shape is only known when it is read.
Functions of the library that take tables compare shapes first and then work on
vectors whose lengths are part of their types.

A table is its rows by index. It takes no room for rows that nobody looks at, so
that a table without columns may have any number of rows, and one without rows
any number of columns.

- `Table.ofLists?`: a table from lists of entries, one list per row.
- `Table.ofEntries`: a table from one list of all entries, row by row.
- `Table.vectors`, `Table.vectorsOf`: the rows one after another.
- `Table.findRow?`: the first row with a property.
-/

namespace ReachMixture

/-- `rows` rows of `cols` entries each. -/
structure Table (α : Type) where
  /-- Number of rows. -/
  rows : Nat
  /-- Number of columns; meaningful also with `rows = 0`. -/
  cols : Nat
  /-- The row at an index below `rows`. -/
  row : Fin rows → Vector α cols

namespace Table

variable {α : Type} {m n : Nat}

/-- The table whose entries are all `value`. -/
def fill (rows cols : Nat) (value : α) : Table α :=
  ⟨rows, cols, fun _ => Vector.replicate cols value⟩

/-- The `rows × 0` table. -/
def ofNoColumns (rows : Nat) : Table α := ⟨rows, 0, fun _ => Vector.ofFn Fin.elim0⟩

/-- The `n × m` table of the vectors in `rows`. -/
def ofVectors (rows : Vector (Vector α m) n) : Table α := ⟨n, m, fun i => rows.get i⟩

/-- `row` as a vector of length `m`; `none` if it has another length. -/
def row? (m : Nat) (row : List α) : Option (Vector α m) :=
  if h : row.length = m then some (Vec.ofList row h) else none

/-- A table from lists of entries. All rows take their length from the first
one, and `none` says that one of them differs. No rows make a `0 × 0` table. -/
def ofLists? (rows : List (List α)) : Option (Table α) :=
  let cols := (rows.head?.map List.length).getD 0
  (rows.mapM (row? cols)).map fun rows => ofVectors (Vec.ofList rows rfl)

theorem entry_lt {rows cols : Nat} (i : Fin rows) (j : Fin cols) :
    i.val * cols + j.val < rows * cols :=
  calc i.val * cols + j.val < i.val * cols + cols := Nat.add_lt_add_left j.isLt _
    _ = (i.val + 1) * cols := (Nat.succ_mul _ _).symm
    _ ≤ rows * cols := Nat.mul_le_mul_right _ i.isLt

/-- The `rows × cols` table of `entries` that are listed row by row: row `i`,
column `j` holds entry `i * cols + j`. -/
def ofEntries (rows cols : Nat) (entries : List α) (h : entries.length = rows * cols) :
    Table α :=
  let all := Vec.ofList entries h
  ⟨rows, cols, fun i => Vector.ofFn fun j => all.get ⟨i.val * cols + j.val, entry_lt i j⟩⟩

/-- The rows, first to last, as a vector of vectors. -/
def vectors (t : Table α) : Vector (Vector α t.cols) t.rows := Vector.ofFn t.row

/-- The rows of a table whose `cols` is `m`, cast to vectors of length `m`. -/
def vectorsOf (t : Table α) (h : t.cols = m) : Vector (Vector α m) t.rows :=
  t.vectors.map fun row => row.cast h

/-- `vectors` as a list. -/
def rowList (t : Table α) : List (Vector α t.cols) := t.vectors.toList

/-- The entries as a list of lists, one per row. -/
def toLists (t : Table α) : List (List α) := t.rowList.map Vector.toList

/-- The first index from `i` on, among the last `left` rows, whose row satisfies
`p`. -/
def findFrom? (t : Table α) (p : Vector α t.cols → Bool) : (left i : Nat) →
    left + i = t.rows → Option Nat
  | 0, _, _ => none
  | left + 1, i, h =>
    if p (t.row ⟨i, Nat.lt_of_lt_of_eq (Nat.lt_add_of_pos_left (Nat.succ_pos left)) h⟩)
    then some i
    else t.findFrom? p left (i + 1) ((Nat.succ_add_eq_add_succ left i).symm.trans h)

/-- The index of the first row that satisfies `p`. Rows after it are not looked
at, so a table may be larger than can be listed. -/
def findRow? (t : Table α) (p : Vector α t.cols → Bool) : Option Nat :=
  t.findFrom? p t.rows 0 rfl

end Table

end ReachMixture
