import ReachMixture.Fault

/-!
# Capacity

What is kept in memory at once is one block, and a block has fewer than `2 ^ 63`
bytes. Who asks for a larger one asks for what cannot be had, and the
computation is aborted before it begins.

- `Capacity.entries`: how many numbers, of eight bytes each, are too many for
  one block.
- `Capacity.rows`: how many rows, of 32 bytes each, are too many for a growing
  list.
- `Capacity.reserve`: the request for a block of numbers. Every table, product
  and Gram matrix that the library keeps is requested through it.
-/

namespace ReachMixture.Capacity

/-- `2 ^ 60` numbers take `2 ^ 63` bytes: a table has fewer entries than this. -/
def entries : Nat := Nat.pow 2 60

/-- `2 ^ 58` rows of 32 bytes take `2 ^ 63` bytes: a list that is set aside row
by row has room for fewer rows than this. -/
def rows : Nat := Nat.pow 2 58

/-- Asks for a block of `count` numbers; `overCapacity` if there are `entries`
or more. -/
def reserve {α : Type} (count : Nat) : Except (Fault α) Unit :=
  if entries ≤ count then .error (.aborted .overCapacity) else .ok ()

end ReachMixture.Capacity
