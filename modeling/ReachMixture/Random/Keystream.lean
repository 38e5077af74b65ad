import ReachMixture.Random.Source

/-!
# Keystreams

A stream of 64-bit words from a 256-bit key: the ChaCha cipher with twelve
rounds, block after block. Each block is sixteen 32-bit words, read as eight
64-bit words with the low half first.

- `Key.ofSeed`: a key from a single word.
- `block`: the words of one block.
-/

namespace ReachMixture.Random

/-- A key of eight 32-bit words. -/
abbrev Key := Vector UInt32 8

/-- The working state of a block: sixteen 32-bit words. -/
abbrev Grid := Vector UInt32 16

/-- One step of the seed expansion: a word, rotated right by the top five bits
of the state, and the next state of a linear congruence. -/
def expandSeed (state : UInt64) : UInt32 × UInt64 :=
  let state := state * 6364136223846793005 + 11634580027462260723
  let word := (((state >>> 18) ^^^ state) >>> 27).toUInt32
  let turn := (state >>> 59).toUInt32
  ((word >>> turn) ||| (word <<< ((32 - turn) % 32)), state)

/-- The key of a seed: eight steps of `expandSeed`. -/
def Key.ofSeed (seed : UInt64) : Key := (drawVector expandSeed 8 seed).1

/-- Rotates `x` to the left by `bits`. -/
def rotateLeft (x bits : UInt32) : UInt32 := (x <<< bits) ||| (x >>> (32 - bits))

/-- Mixes the words `a`, `b`, `c`, `d` of the state by additions, rotations and
exclusive ors. -/
def quarterRound (g : Grid) (a b c d : Fin 16) : Grid :=
  let g := g.set a (g[a] + g[b])
  let g := g.set d (rotateLeft (g[d] ^^^ g[a]) 16)
  let g := g.set c (g[c] + g[d])
  let g := g.set b (rotateLeft (g[b] ^^^ g[c]) 12)
  let g := g.set a (g[a] + g[b])
  let g := g.set d (rotateLeft (g[d] ^^^ g[a]) 8)
  let g := g.set c (g[c] + g[d])
  g.set b (rotateLeft (g[b] ^^^ g[c]) 7)

/-- A round over the columns of the grid and a round over its diagonals. -/
def doubleRound (g : Grid) : Grid :=
  let g := quarterRound g 0 4 8 12
  let g := quarterRound g 1 5 9 13
  let g := quarterRound g 2 6 10 14
  let g := quarterRound g 3 7 11 15
  let g := quarterRound g 0 5 10 15
  let g := quarterRound g 1 6 11 12
  let g := quarterRound g 2 7 8 13
  quarterRound g 3 4 9 14

/-- The state before the rounds: four constants, the key, the block counter, two
zeros. -/
def opening (key : Key) (counter : UInt64) : Grid :=
  #v[0x61707865, 0x3320646e, 0x79622d32, 0x6b206574,
    key[0], key[1], key[2], key[3], key[4], key[5], key[6], key[7],
    counter.toUInt32, (counter >>> 32).toUInt32, 0, 0]

/-- The words of a block: six `doubleRound`s, added to the `opening` state and
joined in pairs. -/
def block (key : Key) (counter : UInt64) : Vector UInt64 8 :=
  let start := opening key counter
  let final := Nat.fold 6 (fun _ _ g => doubleRound g) start
  let words := Vector.zipWith (· + ·) start final
  Vector.ofFn fun i => words[2 * i.val].toUInt64 |||
    (words[2 * i.val + 1].toUInt64 <<< 32)

end ReachMixture.Random
