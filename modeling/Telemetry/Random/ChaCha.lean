/-!
# A reproducible stream of random words

The block function of ChaCha with twelve rounds turns a key and a block number into sixteen words.
A seed of 64 bits determines the key by a linear congruential generator with an output permutation;
the stream is the words of the blocks 0, 1, 2, ….

Words are taken two at a time, the low one first. The `n`-th number drawn from a seed is therefore a
function of the seed and `n`, and no state has to be carried along.

## Main definitions

* `ChaCha.block`: the sixteen words of a block.
* `Stream.word`: the `n`-th word of 64 bits of the stream of a seed.
* `Stream.unit`: the `n`-th number from zero up to, but not including, one.
-/

namespace Telemetry

namespace ChaCha

/-- The word rotated to the left. -/
def rotate (x : UInt32) (k : UInt32) : UInt32 := (x <<< k) ||| (x >>> (32 - k))

/-- Mixes four words of the state. -/
def quarterRound (s : Array UInt32) (a b c d : Nat) : Array UInt32 :=
  let (wa, wb, wc, wd) := (s.getD a 0, s.getD b 0, s.getD c 0, s.getD d 0)
  let wa := wa + wb
  let wd := rotate (wd ^^^ wa) 16
  let wc := wc + wd
  let wb := rotate (wb ^^^ wc) 12
  let wa := wa + wb
  let wd := rotate (wd ^^^ wa) 8
  let wc := wc + wd
  let wb := rotate (wb ^^^ wc) 7
  (((s.setIfInBounds a wa).setIfInBounds b wb).setIfInBounds c wc).setIfInBounds d wd

/-- Two rounds: one along the columns and one along the diagonals. -/
def doubleRound (s : Array UInt32) : Array UInt32 :=
  [(0, 4, 8, 12), (1, 5, 9, 13), (2, 6, 10, 14), (3, 7, 11, 15),
    (0, 5, 10, 15), (1, 6, 11, 12), (2, 7, 8, 13), (3, 4, 9, 14)].foldl
    (fun s (a, b, c, d) => quarterRound s a b c d) s

/-- The first four words of every state. -/
def constants : List UInt32 := [0x61707865, 0x3320646e, 0x79622d32, 0x6b206574]

/-- The state for a key and the number of a block. -/
def initial (key : List UInt32) (number : Nat) : Array UInt32 :=
  (constants ++ key ++ [UInt32.ofNat number, UInt32.ofNat (number / UInt32.size), 0, 0]).toArray

/-- The sixteen words of a block. -/
def block (key : List UInt32) (number : Nat) : Array UInt32 :=
  let start := initial key number
  let mixed := (List.range 6).foldl (fun s _ => doubleRound s) start
  mixed.zipWith (· + ·) start

end ChaCha

namespace Stream

/-- The next state of the generator that expands a seed. -/
def nextSeed (state : UInt64) : UInt64 :=
  state * 6364136223846793005 + 11634580027462260723

/-- The word that a state of the generator puts out. -/
def seedWord (state : UInt64) : UInt32 :=
  let shifted := (((state >>> 18) ^^^ state) >>> 27).toUInt32
  let turn := (state >>> 59).toUInt32
  (shifted >>> turn) ||| (shifted <<< ((32 - turn) % 32))

/-- The first `n` words that a seed expands to. -/
def expand : Nat → UInt64 → List UInt32
  | 0, _ => []
  | n + 1, state =>
    let state := nextSeed state
    seedWord state :: expand n state

/-- The key of a seed. -/
def key (seed : UInt64) : List UInt32 := expand 8 seed

/-- The `n`-th word of 64 bits. -/
def word (seed : UInt64) (n : Nat) : UInt64 :=
  let words := ChaCha.block (key seed) (n / 8)
  let low := words.getD (2 * (n % 8)) 0
  let high := words.getD (2 * (n % 8) + 1) 0
  low.toUInt64 ||| (high.toUInt64 <<< 32)

/-- The `n`-th number from zero up to, but not including, one: a multiple of `2 ^ -53`. -/
def unit (seed : UInt64) (n : Nat) : Float :=
  (word seed n >>> 11).toFloat / 9007199254740992

end Stream

end Telemetry
