/-!
# Sources of randomness

What sampling needs from a stream of random numbers. Draws are pure: a draw
takes the state of the stream and returns a value and the state after it.

- `RandomSource`: streams that yield numbers.
- `drawVector`: several draws in a row.
-/

namespace ReachMixture

/-- A stream with states `γ` that yields numbers `α`. -/
class RandomSource (γ : Type) (α : Type) where
  /-- The start of the stream that belongs to a seed. -/
  seeded : UInt64 → γ
  /-- A number in `[0, 1)`. -/
  unit : γ → α × γ
  /-- A number in `[0, total)`. -/
  below : α → γ → α × γ
  /-- A standard normal number. -/
  normal : γ → α × γ

/-- `n` draws in a row, first to last. -/
def drawVector {γ β : Type} (draw : γ → β × γ) : (n : Nat) → γ → Vector β n × γ
  | 0, g => (#v[], g)
  | n + 1, g =>
    let (earlier, g) := drawVector draw n g
    let (x, g) := draw g
    (earlier.push x, g)

end ReachMixture
