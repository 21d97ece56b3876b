/-!
# Random numbers

Random numbers come from a stream of words made by twelve rounds of the ChaCha permutation.  The key
is derived from a seed, and the state of a generator is that key and the number of draws, so equal
seeds give equal draws.
-/

namespace Gamebook.Machine

/-! ## The permutation -/

/-- Four words that are worked on side by side. -/
structure Row where
  /-- The first word. -/
  a : UInt32
  /-- The second word. -/
  b : UInt32
  /-- The third word. -/
  c : UInt32
  /-- The fourth word. -/
  d : UInt32
  deriving DecidableEq, Repr

namespace Row

/-- Sum of words. -/
def add (left right : Row) : Row :=
  ⟨left.a + right.a, left.b + right.b, left.c + right.c, left.d + right.d⟩

/-- Rotate a word to the left. -/
def rotateWord (word bits : UInt32) : UInt32 :=
  (word <<< bits) ||| (word >>> (32 - bits))

/-- Exclusive or of words, rotated to the left. -/
def mix (left right : Row) (bits : UInt32) : Row :=
  ⟨rotateWord (left.a ^^^ right.a) bits, rotateWord (left.b ^^^ right.b) bits,
    rotateWord (left.c ^^^ right.c) bits, rotateWord (left.d ^^^ right.d) bits⟩

/-- Move the words by one place to the front. -/
def turn (row : Row) : Row :=
  ⟨row.b, row.c, row.d, row.a⟩

/-- The words in order. -/
def words (row : Row) : List UInt32 :=
  [row.a, row.b, row.c, row.d]

end Row

/-- The sixteen words of the permutation in four rows. -/
structure Grid where
  /-- The first row. -/
  p : Row
  /-- The second row. -/
  q : Row
  /-- The third row. -/
  r : Row
  /-- The fourth row. -/
  s : Row

namespace Grid

/-- Mix the columns. -/
def mixColumns (grid : Grid) : Grid :=
  let p := grid.p.add grid.q
  let s := grid.s.mix p 16
  let r := grid.r.add s
  let q := grid.q.mix r 12
  let p := p.add q
  let s := s.mix p 8
  let r := r.add s
  let q := q.mix r 7
  ⟨p, q, r, s⟩

/-- Mix the columns, then the diagonals. -/
def doubleRound (grid : Grid) : Grid :=
  let grid := grid.mixColumns
  let grid := mixColumns ⟨grid.p, grid.q.turn, grid.r.turn.turn, grid.s.turn.turn.turn⟩
  ⟨grid.p, grid.q.turn.turn.turn, grid.r.turn.turn, grid.s.turn⟩

/-- Six double rounds. -/
def permute (grid : Grid) : Grid :=
  grid.doubleRound.doubleRound.doubleRound.doubleRound.doubleRound.doubleRound

/-- Sum of all words. -/
def add (left right : Grid) : Grid :=
  ⟨left.p.add right.p, left.q.add right.q, left.r.add right.r, left.s.add right.s⟩

/-- The words in order. -/
def words (grid : Grid) : List UInt32 :=
  grid.p.words ++ grid.q.words ++ grid.r.words ++ grid.s.words

end Grid

/-! ## Keys -/

/-- The words that a seed expands to. -/
def expandSeed : Nat → UInt64 → List UInt32
  | 0, _ => []
  | count + 1, state =>
    let state := state * 6364136223846793005 + 11634580027462260723
    let word := (((state >>> 18) ^^^ state) >>> 27).toUInt32
    let turn := (state >>> 59).toUInt32
    ((word >>> turn) ||| (word <<< (32 - turn))) :: expandSeed count state

/-! ## The generator -/

/-- A random number generator. -/
structure Random where
  /-- The first half of the key. -/
  low : Row
  /-- The second half of the key. -/
  high : Row
  /-- The number of draws so far. -/
  drawn : Nat
  deriving DecidableEq, Repr

namespace Random

/-- The generator of a seed. -/
def ofSeed (seed : UInt64) : Random :=
  match expandSeed 8 seed with
  | [a, b, c, d, e, f, g, h] => ⟨⟨a, b, c, d⟩, ⟨e, f, g, h⟩, 0⟩
  | _ => ⟨⟨0, 0, 0, 0⟩, ⟨0, 0, 0, 0⟩, 0⟩

/-- A block of sixteen words of the stream. -/
def blockWords (random : Random) (index : Nat) : List UInt32 :=
  let counter := index.toUInt64
  let grid : Grid :=
    { p := ⟨0x61707865, 0x3320646e, 0x79622d32, 0x6b206574⟩
      q := random.low
      r := random.high
      s := ⟨counter.toUInt32, (counter >>> 32).toUInt32, 0, 0⟩ }
  (grid.permute.add grid).words

/-- Draw the next two words of the stream as one number, the low word first. -/
def next (random : Random) : UInt64 × Random :=
  let words := random.blockWords (random.drawn / 8)
  let place := 2 * (random.drawn % 8)
  let low := (words[place]?.getD 0).toUInt64
  let high := (words[place + 1]?.getD 0).toUInt64
  (high <<< 32 ||| low, { random with drawn := random.drawn + 1 })

/-- The number from one to two, two excluded, whose fraction has the high bits of a draw. -/
def fraction (bits : UInt64) : Float :=
  Float.ofBits ((1023 : UInt64) <<< 52 ||| bits >>> 12)

/-- Draw a number from zero to `bound`, `bound` excluded.  A draw that rounding takes to the bound is
repeated. -/
def below (bound : Float) : Nat → Random → Float × Random
  | 0, random => (0, random)
  | fuel + 1, random =>
    let (bits, random) := random.next
    let sample := (fraction bits - 1) * bound
    if sample < bound then (sample, random) else below bound fuel random

end Random

end Gamebook.Machine
