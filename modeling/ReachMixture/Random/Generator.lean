import ReachMixture.Random.Keystream

/-!
# Generators

A generator reads a keystream word by word, and turns words into numbers between
zero and one.
-/

namespace ReachMixture.Random

/-- A position in the keystream of `key`. -/
structure Generator where
  /-- The key of the stream. -/
  key : Key
  /-- The block to read next. -/
  counter : UInt64
  /-- The words left in the current block. -/
  rest : List UInt64

namespace Generator

/-- The start of the stream of a seed. -/
def ofSeed (seed : UInt64) : Generator := ⟨.ofSeed seed, 0, []⟩

/-- The next word: of the current block, or the first one of block `counter`. -/
def next (g : Generator) : UInt64 × Generator :=
  match g.rest with
  | word :: rest => (word, { g with rest })
  | [] =>
    let words := block g.key g.counter
    (words.get 0, { g with counter := g.counter + 1, rest := words.toList.tail })

/-- A multiple of `2^-52` below one. -/
def unit (g : Generator) : Float × Generator :=
  let (word, g) := g.next
  ((word >>> 12).toFloat / 4503599627370496.0, g)

/-- A multiple of `2^-53` below one. -/
def fineUnit (g : Generator) : Float × Generator :=
  let (word, g) := g.next
  ((word >>> 11).toFloat / 9007199254740992.0, g)

/-- A number in the open interval `(0, 1)`: an odd multiple of `2^-53`. -/
def openUnit (g : Generator) : Float × Generator :=
  let (x, g) := g.unit
  (x + 1.0 / 9007199254740992.0, g)

end Generator

end ReachMixture.Random
