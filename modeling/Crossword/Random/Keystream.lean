/-!
# A stream of random words

The words of the ChaCha stream cipher with twelve rounds, as a source of random numbers that a seed
determines. A keystream is its key, the number of the next block, and the words of the current
block that have not been drawn. A word pair gives a number of twice the width, low half first.
-/

namespace Crossword

/-- Four words, mixed side by side. -/
structure Quad where
  a : UInt32
  b : UInt32
  c : UInt32
  d : UInt32
  deriving DecidableEq

namespace Quad

/-- Combines two quads word by word. -/
def zipWith (f : UInt32 → UInt32 → UInt32) (x y : Quad) : Quad :=
  ⟨f x.a y.a, f x.b y.b, f x.c y.c, f x.d y.d⟩

/-- Sum of the words. -/
def add (x y : Quad) : Quad := zipWith (· + ·) x y

/-- Exclusive or of the words, each then rotated left. -/
def xorRotate (x y : Quad) (n : UInt32) : Quad :=
  zipWith (fun u v => ((u ^^^ v) <<< n) ||| ((u ^^^ v) >>> (32 - n))) x y

/-- The words moved one place to the left, the first to the end. -/
def turn (x : Quad) : Quad := ⟨x.b, x.c, x.d, x.a⟩

/-- The words in order. -/
def toList (x : Quad) : List UInt32 := [x.a, x.b, x.c, x.d]

end Quad

/-- The sixteen words of a block, in four rows. -/
structure Block where
  w : Quad
  x : Quad
  y : Quad
  z : Quad
  deriving DecidableEq

namespace Block

/-- Mixes the four columns. -/
def mixColumns (s : Block) : Block :=
  let w := s.w.add s.x
  let z := s.z.xorRotate w 16
  let y := s.y.add z
  let x := s.x.xorRotate y 12
  let w := w.add x
  let z := z.xorRotate w 8
  let y := y.add z
  let x := x.xorRotate y 7
  ⟨w, x, y, z⟩

/-- Brings the diagonals into the columns. -/
def slant (s : Block) : Block := ⟨s.w, s.x.turn, s.y.turn.turn, s.z.turn.turn.turn⟩

/-- Brings the columns back into the diagonals. -/
def unslant (s : Block) : Block := ⟨s.w, s.x.turn.turn.turn, s.y.turn.turn, s.z.turn⟩

/-- Mixes the columns and then the diagonals. -/
def doubleRound (s : Block) : Block := s.mixColumns.slant.mixColumns.unslant

/-- Sum of the rows. -/
def add (s t : Block) : Block := ⟨s.w.add t.w, s.x.add t.x, s.y.add t.y, s.z.add t.z⟩

/-- Twelve rounds, added to the block they began with. -/
def scramble (s : Block) : Block :=
  s.doubleRound.doubleRound.doubleRound.doubleRound.doubleRound.doubleRound.add s

end Block

/-- A source of random words. -/
structure Keystream where
  keyLow : Quad
  keyHigh : Quad
  /-- The number of the next block. -/
  counter : UInt64
  /-- Words of the last block that are still to be drawn. -/
  pending : List UInt32
  deriving DecidableEq

namespace Keystream

/-- The next state of the generator that spreads a seed over the key. -/
def spread (s : UInt64) : UInt64 := s * 6364136223846793005 + 11634580027462260723

/-- The key word of a state of that generator. -/
def keyWord (s : UInt64) : UInt32 :=
  let x := (((s >>> 18) ^^^ s) >>> 27).toUInt32
  let n := (s >>> 59).toUInt32
  (x >>> n) ||| (x <<< (32 - n))

/-- Four key words and the state after them. -/
def keyQuad (s : UInt64) : Quad × UInt64 :=
  let s₁ := spread s
  let s₂ := spread s₁
  let s₃ := spread s₂
  let s₄ := spread s₃
  (⟨keyWord s₁, keyWord s₂, keyWord s₃, keyWord s₄⟩, s₄)

/-- The keystream of a seed, from its beginning. -/
def ofSeed (seed : UInt64) : Keystream :=
  let (low, s) := keyQuad seed
  let (high, _) := keyQuad s
  ⟨low, high, 0, []⟩

/-- The block that is scrambled next. -/
def input (k : Keystream) : Block :=
  ⟨⟨0x61707865, 0x3320646e, 0x79622d32, 0x6b206574⟩, k.keyLow, k.keyHigh,
    ⟨k.counter.toUInt32, (k.counter >>> 32).toUInt32, 0, 0⟩⟩

/-- Draws a word. -/
def next32 (k : Keystream) : UInt32 × Keystream :=
  match k.pending with
  | word :: rest => (word, { k with pending := rest })
  | [] =>
    let block := k.input.scramble
    (block.w.a,
      { k with
        counter := k.counter + 1
        pending := [block.w.b, block.w.c, block.w.d] ++ block.x.toList ++ block.y.toList ++
          block.z.toList })

/-- Draws two words as one number, the low half first. -/
def next64 (k : Keystream) : UInt64 × Keystream :=
  let (low, k) := k.next32
  let (high, k) := k.next32
  ((high.toUInt64 <<< 32) ||| low.toUInt64, k)

/-- Draws a number below a bound. The word is scaled to the bound; where its remainder is so large
that a longer word could carry over, a second word decides. -/
def below (k : Keystream) (bound : Nat) : Nat × Keystream :=
  let (word, k) := k.next32
  let product := word.toNat * bound
  let high := product / UInt32.size
  let low := product % UInt32.size
  if low > UInt32.size - bound then
    let (word, k) := k.next32
    if low + word.toNat * bound / UInt32.size ≥ UInt32.size then (high + 1, k) else (high, k)
  else
    (high, k)

end Keystream

end Crossword
