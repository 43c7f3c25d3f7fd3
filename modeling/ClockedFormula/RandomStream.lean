import ClockedFormula.Double.Exact
/-!
# Random numbers

The random numbers of a formula come from the ChaCha cipher with twelve rounds.  The seed is stretched
to a key; block after block of the key stream is cut into 64-bit numbers.  A stream is the seed
together with the count of numbers already drawn, so equal streams draw equal numbers.
-/

namespace ClockedFormula

/-- A place in the random numbers of a seed. -/
structure RandomStream where
  seed : UInt64
  drawn : Nat
deriving DecidableEq, Inhabited

namespace RandomStream

/-- The sixteen words of a block. -/
abbrev Block : Type := Vector UInt32 16

/-! ## The key -/

/-- A word with its bits turned to the right. -/
def rotateRight (x : UInt32) (count : UInt32) : UInt32 :=
  if count = 0 then x else (x >>> count) ||| (x <<< (32 - count))

/-- A word with its bits turned to the left. -/
def rotateLeft (x : UInt32) (count : UInt32) : UInt32 := rotateRight x ((32 - count) % 32)

/-- The next state of the generator that stretches a seed. -/
def nextSeed (state : UInt64) : UInt64 := state * 6364136223846793005 + 11634580027462260723

/-- The word that a state of that generator gives out. -/
def seedWord (state : UInt64) : UInt32 :=
  rotateRight (((state >>> 18) ^^^ state) >>> 27).toUInt32 (state >>> 59).toUInt32

/-- The given number of words of the key. -/
def keyWords (state : UInt64) : (count : Nat) → List UInt32
  | 0 => []
  | count + 1 => seedWord (nextSeed state) :: keyWords (nextSeed state) count

/-! ## The cipher -/

/-- Add one word to another and mix the sum into a third. -/
def mix (block : Block) (target source mixed : Fin 16) (turn : UInt32) : Block :=
  let sum := block[target] + block[source]
  let block := block.set target sum
  block.set mixed (rotateLeft (block[mixed] ^^^ sum) turn)

/-- A quarter of a round, on four words. -/
def quarterRound (block : Block) (a b c d : Fin 16) : Block :=
  let block := mix block a b d 16
  let block := mix block c d b 12
  let block := mix block a b d 8
  mix block c d b 7

/-- Two rounds: one on the columns and one on the diagonals of the block. -/
def doubleRound (block : Block) : Block :=
  let block := quarterRound block 0 4 8 12
  let block := quarterRound block 1 5 9 13
  let block := quarterRound block 2 6 10 14
  let block := quarterRound block 3 7 11 15
  let block := quarterRound block 0 5 10 15
  let block := quarterRound block 1 6 11 12
  let block := quarterRound block 2 7 8 13
  quarterRound block 3 4 9 14

/-- So many double rounds. -/
def rounds (block : Block) : (count : Nat) → Block
  | 0 => block
  | count + 1 => rounds (doubleRound block) count

/-- The block from which a part of the key stream is made: a constant, the key, and the number of the
part. -/
def start (seed : UInt64) (part : Nat) : Block :=
  let words := [0x61707865, 0x3320646e, 0x79622d32, 0x6b206574] ++ keyWords seed 8
    ++ [UInt32.ofNat part, UInt32.ofNat (part / 2 ^ 32), 0, 0]
  Vector.ofFn fun position => words.getD position 0

/-- A part of the key stream. -/
def keyStream (seed : UInt64) (part : Nat) : Block :=
  let block := start seed part
  Vector.zipWith (· + ·) (rounds block 6) block

/-! ## Drawing -/

/-- A word of the key stream. -/
def word (seed : UInt64) (position : Nat) : UInt32 :=
  (keyStream seed (position / 16)).get ⟨position % 16, Nat.mod_lt _ (by decide)⟩

/-- The number of 64 bits at the place of the stream; its low half comes first. -/
def peek (stream : RandomStream) : UInt64 :=
  let low := word stream.seed (2 * stream.drawn)
  let high := word stream.seed (2 * stream.drawn + 1)
  (high.toUInt64 <<< 32) ||| low.toUInt64

/-- The next number from zero to below one, a multiple of `2 ^ -53`, and the stream behind it. -/
def next (stream : RandomStream) : Double × RandomStream :=
  (Double.ofQuotient false (stream.peek >>> 11).toNat (2 ^ 53),
    { stream with drawn := stream.drawn + 1 })

end RandomStream

end ClockedFormula
