/-!
# SHA-256

The hash function of that name on lists of bytes. A message is padded to whole blocks
of sixteen 32-bit words; each block is expanded to sixty-four words, which are mixed
into a state of eight words in as many rounds.
-/

namespace NeutralSql.Sha256

/-- The working state of eight words. -/
structure State where
  a : UInt32
  b : UInt32
  c : UInt32
  d : UInt32
  e : UInt32
  f : UInt32
  g : UInt32
  h : UInt32
  deriving DecidableEq

/-- The state before the first block. -/
def State.initial : State :=
  ⟨0x6a09e667, 0xbb67ae85, 0x3c6ef372, 0xa54ff53a, 0x510e527f, 0x9b05688c, 0x1f83d9ab,
   0x5be0cd19⟩

/-- The constants of the rounds. -/
def roundConstants : List UInt32 :=
  [0x428a2f98, 0x71374491, 0xb5c0fbcf, 0xe9b5dba5, 0x3956c25b, 0x59f111f1, 0x923f82a4,
   0xab1c5ed5, 0xd807aa98, 0x12835b01, 0x243185be, 0x550c7dc3, 0x72be5d74, 0x80deb1fe,
   0x9bdc06a7, 0xc19bf174, 0xe49b69c1, 0xefbe4786, 0x0fc19dc6, 0x240ca1cc, 0x2de92c6f,
   0x4a7484aa, 0x5cb0a9dc, 0x76f988da, 0x983e5152, 0xa831c66d, 0xb00327c8, 0xbf597fc7,
   0xc6e00bf3, 0xd5a79147, 0x06ca6351, 0x14292967, 0x27b70a85, 0x2e1b2138, 0x4d2c6dfc,
   0x53380d13, 0x650a7354, 0x766a0abb, 0x81c2c92e, 0x92722c85, 0xa2bfe8a1, 0xa81a664b,
   0xc24b8b70, 0xc76c51a3, 0xd192e819, 0xd6990624, 0xf40e3585, 0x106aa070, 0x19a4c116,
   0x1e376c08, 0x2748774c, 0x34b0bcb5, 0x391c0cb3, 0x4ed8aa4a, 0x5b9cca4f, 0x682e6ff3,
   0x748f82ee, 0x78a5636f, 0x84c87814, 0x8cc70208, 0x90befffa, 0xa4506ceb, 0xbef9a3f7,
   0xc67178f2]

/-- A word rotated to the right. -/
def rotateRight (word amount : UInt32) : UInt32 :=
  (word >>> amount) ||| (word <<< (32 - amount))

/-- One more word of the expansion of a block. The words so far come latest first. -/
def nextWord (words : List UInt32) : UInt32 :=
  let back (distance : Nat) : UInt32 := words.getD (distance - 1) 0
  let far := back 15
  let near := back 2
  let small := rotateRight far 7 ^^^ rotateRight far 18 ^^^ (far >>> 3)
  let large := rotateRight near 17 ^^^ rotateRight near 19 ^^^ (near >>> 10)
  back 16 + small + back 7 + large

/-- The sixty-four words that a block of sixteen is expanded to. -/
def expand (block : List UInt32) : List UInt32 :=
  ((List.range 48).foldl (fun words _ => nextWord words :: words) block.reverse).reverse

/-- One round on the state. -/
def round (state : State) (constant word : UInt32) : State :=
  let large := rotateRight state.e 6 ^^^ rotateRight state.e 11 ^^^ rotateRight state.e 25
  let choice := (state.e &&& state.f) ^^^ (~~~state.e &&& state.g)
  let first := state.h + large + choice + constant + word
  let small := rotateRight state.a 2 ^^^ rotateRight state.a 13 ^^^ rotateRight state.a 22
  let majority := (state.a &&& state.b) ^^^ (state.a &&& state.c) ^^^ (state.b &&& state.c)
  ⟨first + (small + majority), state.a, state.b, state.c, state.d + first, state.e, state.f,
   state.g⟩

/-- The state with a block of sixteen words mixed in. -/
def compress (state : State) (block : List UInt32) : State :=
  let mixed := (roundConstants.zip (expand block)).foldl (fun current pair =>
    round current pair.1 pair.2) state
  ⟨state.a + mixed.a, state.b + mixed.b, state.c + mixed.c, state.d + mixed.d,
   state.e + mixed.e, state.f + mixed.f, state.g + mixed.g, state.h + mixed.h⟩

/-- The bytes of a 64-bit number, most significant first. -/
def bytesOfUInt64 (number : UInt64) : List UInt8 :=
  [56, 48, 40, 32, 24, 16, 8, 0].map fun (shift : UInt64) => (number >>> shift).toUInt8

/-- The bytes of a word, most significant first. -/
def bytesOfWord (word : UInt32) : List UInt8 :=
  [24, 16, 8, 0].map fun (shift : UInt32) => (word >>> shift).toUInt8

/-- Four bytes make a word; a shorter rest makes none. -/
def wordsOfBytes : List UInt8 → List UInt32
  | a :: b :: c :: d :: rest =>
    ((a.toUInt32 <<< 24) ||| (b.toUInt32 <<< 16) ||| (c.toUInt32 <<< 8) ||| d.toUInt32) ::
      wordsOfBytes rest
  | _ => []

/-- A message followed by a one bit, by zeros, and by its length in bits, so that blocks
of sixty-four bytes come out even. -/
def pad (message : List UInt8) : List UInt8 :=
  message ++ [0x80] ++ List.replicate ((119 - message.length % 64) % 64) 0 ++
    bytesOfUInt64 (UInt64.ofNat (8 * message.length))

/-- A state and the words, latest first, of the block that is not complete yet. -/
structure Absorbing where
  state : State
  block : List UInt32

/-- Take in one word; the sixteenth completes the block. -/
def Absorbing.add (absorbing : Absorbing) (word : UInt32) : Absorbing :=
  let block := word :: absorbing.block
  if block.length < 16 then ⟨absorbing.state, block⟩
  else ⟨compress absorbing.state block.reverse, []⟩

/-- The thirty-two bytes of the hash of a message. -/
def hash (message : List UInt8) : List UInt8 :=
  let final := ((wordsOfBytes (pad message)).foldl Absorbing.add ⟨.initial, []⟩).state
  [final.a, final.b, final.c, final.d, final.e, final.f, final.g, final.h].flatMap bytesOfWord

end NeutralSql.Sha256
