import FilmIndex.Number.Double

/-!
Repeatable random vectors. A seed of any size is hashed into a pool of four
words, the pool starts a generator with 128 bits of state, and each output of 64
bits gives two numbers of 24 bits, the low half first. The numbers are kept in
an array of 32 bits each, for which there may be too little memory.
-/

namespace FilmIndex
namespace Sampling
open Number

inductive Error where
  | negativeSeed
  | negativeSize
  | sizeTooLarge
  | tooManyBytes
  | noMemory
  deriving DecidableEq

/-- The message about missing memory goes on with the array's size and shape, which
are left out here. -/
def Error.message : Error → String
  | negativeSeed => "expected non-negative integer"
  | negativeSize => "negative dimensions are not allowed"
  | sizeTooLarge => "Maximum allowed dimension exceeded"
  | tooManyBytes => "array is too big; `arr.size * arr.dtype.itemsize` is larger than the " ++
      "maximum possible size."
  | noMemory => "Unable to allocate"

/-- The memory for an array. A machine has a number of bytes to give, and counts them and the
sizes of an array in signed words of 64 bits. Lists are not counted. -/
inductive Memory where
  | unlimited
  | bytes (count : Nat)

namespace Memory

/-- Signed words hold the numbers from `-wordLimit` to below `wordLimit`. -/
def wordLimit : Nat := twoPow 63

def isWord (n : Int) : Bool := decide (-wordLimit ≤ n ∧ n < wordLimit)

/-- The bytes of an array, counted size by size up to the first one that is negative or
makes them too many. Sizes of zero are passed over. -/
def byteCount (bytes : Nat) : List Int → Except Error Nat
  | [] => .ok bytes
  | size :: sizes =>
    if size < 0 then .error .negativeSize
    else if size = 0 then byteCount bytes sizes
    else if wordLimit ≤ bytes * size.toNat then .error .tooManyBytes
    else byteCount (bytes * size.toNat) sizes

/-- Whether there is memory for an array of the given sizes. -/
def allocate (sizes : List Int) : Memory → Except Error Unit
  | unlimited => if sizes.any (· < 0) then .error .negativeSize else .ok ()
  | bytes count =>
    if !sizes.all isWord then .error .sizeTooLarge
    else
      match byteCount 4 sizes with
      | .error e => .error e
      | .ok needed => if count < needed then .error .noMemory else .ok ()

end Memory

/-- The words of 32 bits of a number, the lowest first; `limit` bounds their count. -/
def wordsOf : Nat → Nat → List UInt32
  | 0, _ => []
  | limit + 1, n =>
    UInt32.ofNat n :: (if n < twoPow 32 then [] else wordsOf limit (n / twoPow 32))

def seedWords (seed : Nat) : List UInt32 := wordsOf (seed.log2 / 32 + 1) seed

/-- Four words, and the key that changes with every word hashed. -/
structure Pool where
  words : List UInt32
  key : UInt32

namespace Pool

def empty : Pool := ⟨[], 0x43b0d7e5⟩

def spread (v : UInt32) : UInt32 := v ^^^ (v >>> 16)

def hash (p : Pool) (v : UInt32) : UInt32 × UInt32 :=
  let key := p.key * 0x931e8875
  (spread ((v ^^^ p.key) * key), key)

def mix (x y : UInt32) : UInt32 := spread (0xca01f9dd * x - 0x4973f715 * y)

def append (p : Pool) (v : UInt32) : Pool :=
  let (h, key) := p.hash v
  ⟨p.words ++ [h], key⟩

def word (p : Pool) (i : Nat) : UInt32 := p.words.getD i 0

/-- A word hashed into the pool's word at a place. -/
def stir (p : Pool) (place : Nat) (v : UInt32) : Pool :=
  let (h, key) := p.hash v
  ⟨p.words.set place (mix (p.word place) h), key⟩

def places : List Nat := [0, 1, 2, 3]

def stirOthers (p : Pool) (source : Nat) : Pool :=
  (places.filter (· != source)).foldl (fun p place => p.stir place (p.word source)) p

def stirAll (p : Pool) (v : UInt32) : Pool :=
  places.foldl (fun p place => p.stir place v) p

def ofSeed (seed : Nat) : Pool :=
  let entropy := seedWords seed
  let filled := places.foldl (fun p i => p.append (entropy.getD i 0)) empty
  let mixed := places.foldl stirOthers filled
  (entropy.drop 4).foldl stirAll mixed

/-- `count` words drawn from the pool, from the one of the given index on. -/
def drawFrom (p : Pool) (key : UInt32) (index : Nat) : Nat → List UInt32
  | 0 => []
  | count + 1 =>
    let next := key * 0x58f38ded
    spread ((p.word (index % 4) ^^^ key) * next) :: p.drawFrom next (index + 1) count

/-- Four numbers of 64 bits, each drawn low word first. -/
def draw (p : Pool) : List Nat :=
  let ws := p.drawFrom 0x8b51f9dd 0 8
  places.map fun i => (ws.getD (2 * i) 0).toNat + (ws.getD (2 * i + 1) 0).toNat * twoPow 32

end Pool

/-- A linear congruential generator modulo `2 ^ 128`. -/
structure Generator where
  state : Nat
  increment : Nat

namespace Generator

def next (g : Generator) : Generator :=
  { g with state := (g.state * 0x2360ED051FC65DA44385DF649FCCF645 + g.increment) % twoPow 128 }

def ofSeed (seed : Nat) : Generator :=
  let ws := (Pool.ofSeed seed).draw
  let w := fun i => ws.getD i 0
  let increment := ((w 2 * twoPow 64 + w 3) * 2 + 1) % twoPow 128
  let first := (Generator.mk 0 increment).next
  Generator.next { first with state := (first.state + w 0 * twoPow 64 + w 1) % twoPow 128 }

/-- The two halves of the state combined, rotated right by its six top bits. -/
def output (g : Generator) : Nat :=
  let x := (g.state / twoPow 64) ^^^ (g.state % twoPow 64)
  let turn := g.state / twoPow 122
  (x / twoPow turn + x * twoPow (64 - turn)) % twoPow 64

end Generator

/-- The fraction of a word: its 24 top bits over `2 ^ 24`. -/
def fraction (word : Nat) : Float :=
  Double.toFloat (.finite false (Double.nearestRank (word / twoPow 8) (twoPow 24)))

/-- The first `count` words of the stream that begins after the generator's state. -/
def wordsFrom (g : Generator) : Nat → List Nat
  | 0 => []
  | 1 => [g.next.output % twoPow 32]
  | count + 2 =>
    let x := g.next.output
    x % twoPow 32 :: x / twoPow 32 :: wordsFrom g.next count

def fractions (seed count : Nat) : List Float :=
  (wordsFrom (Generator.ofSeed seed) count).map fraction

/-- Rows of one length cut from a list. -/
def rows {α : Type} (dim : Nat) : Nat → List α → List (List α)
  | 0, _ => []
  | count + 1, xs => xs.take dim :: rows dim count (xs.drop dim)

/-- The vectors of a seed, row by row, if there is memory for them. -/
def vectors (count dim seed : Int) (memory : Memory) : Except Error (List (List Float)) :=
  if seed < 0 then .error .negativeSeed
  else
    match memory.allocate [count, dim] with
    | .error e => .error e
    | .ok _ =>
      .ok (rows dim.toNat count.toNat (fractions seed.toNat (count.toNat * dim.toNat)))

end Sampling
end FilmIndex
