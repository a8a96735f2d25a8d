/-!
# The random stream

Random numbers are the ChaCha keystream with eight rounds under a key that is expanded from a 64-bit seed. A stream is its key and the number of 64-bit values already taken, so equal streams give equal futures, and where a stream stands is a plain number.
-/

namespace SpatialComputer.Sampling

abbrev Block := Vector UInt32 16

def rotateLeft (x : UInt32) (count : UInt32) : UInt32 :=
  (x <<< count) ||| (x >>> (32 - count))

/-- Rotation to the right; a rotation by zero changes nothing. -/
def rotateRight (x : UInt32) (count : UInt32) : UInt32 :=
  (x >>> count) ||| (x <<< ((32 - count) % 32))

def quarterRound (s : Block) (a b c d : Fin 16) : Block :=
  let s := s.set a (s[a] + s[b])
  let s := s.set d (rotateLeft (s[d] ^^^ s[a]) 16)
  let s := s.set c (s[c] + s[d])
  let s := s.set b (rotateLeft (s[b] ^^^ s[c]) 12)
  let s := s.set a (s[a] + s[b])
  let s := s.set d (rotateLeft (s[d] ^^^ s[a]) 8)
  let s := s.set c (s[c] + s[d])
  s.set b (rotateLeft (s[b] ^^^ s[c]) 7)

def doubleRound (s : Block) : Block :=
  let s := quarterRound s 0 4 8 12
  let s := quarterRound s 1 5 9 13
  let s := quarterRound s 2 6 10 14
  let s := quarterRound s 3 7 11 15
  let s := quarterRound s 0 5 10 15
  let s := quarterRound s 1 6 11 12
  let s := quarterRound s 2 7 8 13
  quarterRound s 3 4 9 14

/-- The key stream: its key, and how many 64-bit values were taken from it. -/
structure Keystream where
  key : Vector UInt32 8
  taken : Nat
deriving DecidableEq

namespace Keystream

/-- The block with the given number: eight rounds on the constants, the key, a 64-bit block number and a zero nonce, added to where they began. -/
def block (key : Vector UInt32 8) (number : UInt64) : Block :=
  let initial : Block :=
    #v[0x61707865, 0x3320646e, 0x79622d32, 0x6b206574,
      key[0], key[1], key[2], key[3], key[4], key[5], key[6], key[7],
      number.toUInt32, (number >>> 32).toUInt32, 0, 0]
  let mixed := doubleRound (doubleRound (doubleRound (doubleRound initial)))
  mixed.zipWith (· + ·) initial

/-- The value at a place of the stream: two words of a block, the low one first. -/
def valueAt (key : Vector UInt32 8) (place : Nat) : UInt64 :=
  let words := block key (.ofNat (place / 8))
  let low : Nat := 2 * (place % 8)
  have : low + 1 < 16 := by omega
  words[low].toUInt64 ||| (words[low + 1].toUInt64 <<< 32)

def next (s : Keystream) : UInt64 × Keystream :=
  (valueAt s.key s.taken, { s with taken := s.taken + 1 })

/-- The number of values after which the block number wraps and the stream repeats. -/
def period : Nat := 0x80000000000000000

/-- One step of the seed expansion: a linear congruential step, and its output rotated by its own top bits. -/
def expandStep (state : UInt64) : UInt32 × UInt64 :=
  let state := state * 6364136223846793005 + 11634580027462260723
  let mixed := (((state >>> 18) ^^^ state) >>> 27).toUInt32
  (rotateRight mixed (state >>> 59).toUInt32, state)

def expand : Nat → UInt64 → List UInt32
  | 0, _ => []
  | count + 1, state =>
    let (word, state) := expandStep state
    word :: expand count state

theorem length_expand (count : Nat) (state : UInt64) : (expand count state).length = count := by
  induction count generalizing state with
  | zero => rfl
  | succ count ih => simp [expand, ih]

def ofSeed (seed : UInt64) : Keystream where
  key := ⟨(expand 8 seed).toArray, by simp [length_expand]⟩
  taken := 0

end Keystream

end SpatialComputer.Sampling
