import CqlClient.Bytes

namespace CqlClient.Md5

/-- How far each of the four rounds rotates, step by step. -/
def rotations : List (List UInt32) :=
  [[7, 12, 17, 22], [5, 9, 14, 20], [4, 11, 16, 23], [6, 10, 15, 21]]

/-- The whole part of `2 ^ 32 * |sin (i + 1)|` for each of the 64 steps. -/
def sines : List UInt32 :=
  [0xd76aa478, 0xe8c7b756, 0x242070db, 0xc1bdceee, 0xf57c0faf, 0x4787c62a, 0xa8304613, 0xfd469501,
    0x698098d8, 0x8b44f7af, 0xffff5bb1, 0x895cd7be, 0x6b901122, 0xfd987193, 0xa679438e, 0x49b40821,
    0xf61e2562, 0xc040b340, 0x265e5a51, 0xe9b6c7aa, 0xd62f105d, 0x02441453, 0xd8a1e681, 0xe7d3fbc8,
    0x21e1cde6, 0xc33707d6, 0xf4d50d87, 0x455a14ed, 0xa9e3e905, 0xfcefa3f8, 0x676f02d9, 0x8d2a4c8a,
    0xfffa3942, 0x8771f681, 0x6d9d6122, 0xfde5380c, 0xa4beea44, 0x4bdecfa9, 0xf6bb4b60, 0xbebfbc70,
    0x289b7ec6, 0xeaa127fa, 0xd4ef3085, 0x04881d05, 0xd9d4d039, 0xe6db99e5, 0x1fa27cf8, 0xc4ac5665,
    0xf4292244, 0x432aff97, 0xab9423a7, 0xfc93a039, 0x655b59c3, 0x8f0ccc92, 0xffeff47d, 0x85845dd1,
    0x6fa87e4f, 0xfe2ce6e0, 0xa3014314, 0x4e0811a1, 0xf7537e82, 0xbd3af235, 0x2ad7d2bb, 0xeb86d391]

/-- The four words of the running digest. -/
structure State where
  a : UInt32
  b : UInt32
  c : UInt32
  d : UInt32
  deriving DecidableEq

/-- The digest of nothing. -/
def State.initial : State := ⟨0x67452301, 0xefcdab89, 0x98badcfe, 0x10325476⟩

/-- Rotate to the left. -/
def rotate (word amount : UInt32) : UInt32 :=
  (word <<< amount) ||| (word >>> (32 - amount))

/-- Step `i`: mix one word of the block into the state. The round decides the mixing function and
which word is taken. -/
def step (block : Array UInt32) (s : State) (i : Nat) (sine : UInt32) : State :=
  let (mixed, index) := match i / 16 with
    | 0 => ((s.b &&& s.c) ||| (~~~s.b &&& s.d), i)
    | 1 => ((s.d &&& s.b) ||| (~~~s.d &&& s.c), 5 * i + 1)
    | 2 => (s.b ^^^ s.c ^^^ s.d, 3 * i + 5)
    | _ => (s.c ^^^ (s.b ||| ~~~s.d), 7 * i)
  let amount := ((rotations[i / 16]?.getD [])[i % 4]?).getD 0
  let word := s.a + mixed + sine + block[index % 16]?.getD 0
  ⟨s.d, s.b + rotate word amount, s.b, s.c⟩

/-- Mix a block of sixteen words into the digest. -/
def absorb (s : State) (block : Array UInt32) : State :=
  let (mixed, _) := sines.foldl (fun (s, i) sine => (step block s i sine, i + 1)) (s, 0)
  ⟨s.a + mixed.a, s.b + mixed.b, s.c + mixed.c, s.d + mixed.d⟩

/-- Words of four bytes, least significant byte first. -/
def words : Bytes → List UInt32
  | a :: b :: c :: d :: rest =>
      UInt32.ofNat (Bytes.toNat [d, c, b, a]) :: words rest
  | _ => []

/-- The bytes of a word, least significant byte first. -/
def bytesOf (word : UInt32) : Bytes :=
  (Bytes.ofNat 4 word.toNat).reverse

/-- The message with a one bit, zeros up to 8 bytes short of a whole block, and its length in
bits. -/
def padded (message : Bytes) : Bytes :=
  let length := message.length
  message ++ 0x80 :: List.replicate ((119 - length % 64) % 64) 0 ++
    (Bytes.ofNat 8 (length * 8)).reverse

/-- Absorb whole blocks of sixteen words. -/
def absorbAll : (blocks : Nat) → State → List UInt32 → State
  | 0, s, _ => s
  | blocks + 1, s, words => absorbAll blocks (absorb s (words.take 16).toArray) (words.drop 16)

/-- The digest of a message. -/
def digest (message : Bytes) : Octets 16 :=
  let blocks := words (padded message)
  let s := absorbAll (blocks.length / 16) .initial blocks
  ⟨bytesOf s.a ++ bytesOf s.b ++ bytesOf s.c ++ bytesOf s.d, by simp [bytesOf]⟩

end CqlClient.Md5
