/-!
# The keystream behind dealing

ChaCha with eight rounds turns a key into an endless stream of 32-bit words.  The key
comes from a 64-bit seed by a permuted congruential generator.
-/

namespace SentenceCards.Dealing

/-- The sixteen words that a round works on. -/
abbrev Block := Vector UInt32 16

/-- The word turned by `count` bits to the left, for `0 < count < 32`. -/
def turnLeft (word count : UInt32) : UInt32 :=
  (word <<< count) ||| (word >>> (32 - count))

/-- The word turned to the right; turning by a whole word changes nothing. -/
def turnRight (word count : UInt32) : UInt32 :=
  (word >>> count) ||| (word <<< (32 - count))

/-- Adds word `b` to word `a`, then mixes the sum into word `d`, turned by `count` bits. -/
def mixStep (block : Block) (a b d : Fin 16) (count : UInt32) : Block :=
  let block := block.set a (block[a] + block[b])
  block.set d (turnLeft (block[d] ^^^ block[a]) count)

def quarterRound (block : Block) (a b c d : Fin 16) : Block :=
  let block := mixStep block a b d 16
  let block := mixStep block c d b 12
  let block := mixStep block a b d 8
  mixStep block c d b 7

/-- A round on the columns and a round on the diagonals. -/
def doubleRound (block : Block) : Block :=
  let block := quarterRound block 0 4 8 12
  let block := quarterRound block 1 5 9 13
  let block := quarterRound block 2 6 10 14
  let block := quarterRound block 3 7 11 15
  let block := quarterRound block 0 5 10 15
  let block := quarterRound block 1 6 11 12
  let block := quarterRound block 2 7 8 13
  quarterRound block 3 4 9 14

abbrev Key := Vector UInt32 8

/-- The words before the rounds: four constants, the key, the block number and zeros. -/
def openingBlock (key : Key) (number : UInt64) : Block :=
  #v[0x61707865, 0x3320646e, 0x79622d32, 0x6b206574,
    key[0], key[1], key[2], key[3], key[4], key[5], key[6], key[7],
    number.toUInt32, (number >>> 32).toUInt32, 0, 0]

/-- One block of the keystream. -/
def keyBlock (key : Key) (number : UInt64) : Block :=
  let opening := openingBlock key number
  (doubleRound (doubleRound (doubleRound (doubleRound opening)))).zipWith (· + ·) opening

/-- The word at a position of the keystream. -/
def keyWord (key : Key) (position : Nat) : UInt32 :=
  (keyBlock key (position / 16).toUInt64)[position % 16]

/-- The next state of the congruential generator. -/
def nextState (state : UInt64) : UInt64 :=
  state * 6364136223846793005 + 11634580027462260723

/-- The word that a state of the congruential generator stands for. -/
def stateWord (state : UInt64) : UInt32 :=
  turnRight (((state >>> 18) ^^^ state) >>> 27).toUInt32 (state >>> 59).toUInt32

/-- The state after `count` steps. -/
def stateAfter (seed : UInt64) : (count : Nat) → UInt64
  | 0 => seed
  | count + 1 => nextState (stateAfter seed count)

/-- The key for a seed. -/
def keyOfSeed (seed : UInt64) : Key :=
  Vector.ofFn fun index => stateWord (stateAfter seed (index.val + 1))

end SentenceCards.Dealing
