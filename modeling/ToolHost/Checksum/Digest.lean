/-! Digests: short values that stand for bytes of any length, made block by block. -/
namespace ToolHost.Checksum

/-- The whole part of a root of a number below a power of two. -/
def wholeRoot (degree n : Nat) : Nat → Nat → Nat
  | 0, root => root
  | bit + 1, root =>
    let larger := root + Nat.pow 2 bit
    wholeRoot degree n bit (if Nat.pow larger degree ≤ n then larger else root)

/-- The first 64 bits behind the point of a root. -/
def rootFraction (degree n : Nat) : UInt64 :=
  UInt64.ofNat (wholeRoot degree (n * Nat.pow 2 (64 * degree)) 72 0)

/-- So many prime numbers, the first one first. -/
def primes (count : Nat) : List Nat :=
  ((List.range 500).filter fun n => 1 < n && (List.range n).all fun d => d < 2 || n % d != 0).take count

/-- The first 64 bits behind the points of the cubic roots of the first prime numbers. -/
def cubicRoots : Array UInt64 := ((primes 80).map (rootFraction 3)).toArray

/-- The first 64 bits behind the points of the square roots of the first prime numbers. -/
def squareRoots : Array UInt64 := ((primes 16).map (rootFraction 2)).toArray

/-- A number in so many bytes, the highest one first. -/
def bigEndian (size n : Nat) : List UInt8 :=
  (List.range size).map fun place => UInt8.ofNat (n / Nat.pow 256 (size - 1 - place))

/-- A number in so many bytes, the lowest one first. -/
def littleEndian (size n : Nat) : List UInt8 := (bigEndian size n).reverse

/-- The number in bytes, the highest one first. -/
def ofBigEndian (bytes : List UInt8) : Nat := bytes.foldl (fun n b => n * 256 + b.toNat) 0

/-- Bytes with a mark of their end, zeros, and their number of bits, so that they fill up blocks. -/
def padded (blockSize lengthSize : Nat) (lengthBytes : Nat → List UInt8) (bytes : List UInt8) :
    List UInt8 :=
  let used := (bytes.length + 1 + lengthSize) % blockSize
  bytes ++ 0x80 :: List.replicate ((blockSize - used) % blockSize) 0 ++ lengthBytes (8 * bytes.length)

/-- Bytes in groups of one size. -/
def blocksOf (size : Nat) : Nat → List UInt8 → List (List UInt8)
  | 0, _ => []
  | _, [] => []
  | fuel + 1, bytes => bytes.take size :: blocksOf size fuel (bytes.drop size)

/-- The words of a block, made from groups of bytes. -/
def wordsOf (size : Nat) (word : List UInt8 → α) (block : List UInt8) : Array α :=
  ((blocksOf size block.length block).map word).toArray

/-- The digits of bytes, two for each. -/
def hexText (bytes : List UInt8) : String :=
  String.ofList (bytes.flatMap fun b =>
    [Nat.digitChar (b.toNat / 16), Nat.digitChar (b.toNat % 16)])

/-- Turns the bits of a word to the left. -/
def turnLeft (w : UInt32) (n : UInt32) : UInt32 := (w <<< n) ||| (w >>> (32 - n))

/-- Turns the bits of a word to the right. -/
def turnRight (w : UInt32) (n : UInt32) : UInt32 := (w >>> n) ||| (w <<< (32 - n))

def turnRightLong (w : UInt64) (n : UInt64) : UInt64 := (w >>> n) ||| (w <<< (64 - n))

/-- Four words that are worked on. -/
structure Four where
  a : UInt32
  b : UInt32
  c : UInt32
  d : UInt32

/-- The whole parts of the sines of the first numbers, four thousand million times as large. -/
def sines : Array UInt32 :=
  #[0xd76aa478, 0xe8c7b756, 0x242070db, 0xc1bdceee, 0xf57c0faf, 0x4787c62a,
    0xa8304613, 0xfd469501, 0x698098d8, 0x8b44f7af, 0xffff5bb1, 0x895cd7be,
    0x6b901122, 0xfd987193, 0xa679438e, 0x49b40821, 0xf61e2562, 0xc040b340,
    0x265e5a51, 0xe9b6c7aa, 0xd62f105d, 0x02441453, 0xd8a1e681, 0xe7d3fbc8,
    0x21e1cde6, 0xc33707d6, 0xf4d50d87, 0x455a14ed, 0xa9e3e905, 0xfcefa3f8,
    0x676f02d9, 0x8d2a4c8a, 0xfffa3942, 0x8771f681, 0x6d9d6122, 0xfde5380c,
    0xa4beea44, 0x4bdecfa9, 0xf6bb4b60, 0xbebfbc70, 0x289b7ec6, 0xeaa127fa,
    0xd4ef3085, 0x04881d05, 0xd9d4d039, 0xe6db99e5, 0x1fa27cf8, 0xc4ac5665,
    0xf4292244, 0x432aff97, 0xab9423a7, 0xfc93a039, 0x655b59c3, 0x8f0ccc92,
    0xffeff47d, 0x85845dd1, 0x6fa87e4f, 0xfe2ce6e0, 0xa3014314, 0x4e0811a1,
    0xf7537e82, 0xbd3af235, 0x2ad7d2bb, 0xeb86d391]

/-- How far a word is turned in each step of a round. -/
def turns : List (Array UInt32) := [#[7, 12, 17, 22], #[5, 9, 14, 20], #[4, 11, 16, 23], #[6, 10, 15, 21]]

/-- One step of the digest of sixteen bytes. -/
def stepMd5 (words : Array UInt32) (s : Four) (n : Nat) : Four :=
  let (mixed, place) : UInt32 × Nat := match n / 16 with
    | 0 => ((s.b &&& s.c) ||| (~~~s.b &&& s.d), n)
    | 1 => ((s.d &&& s.b) ||| (~~~s.d &&& s.c), 5 * n + 1)
    | 2 => (s.b ^^^ s.c ^^^ s.d, 3 * n + 5)
    | _ => (s.c ^^^ (s.b ||| ~~~s.d), 7 * n)
  let sum := s.a + mixed + sines.getD n 0 + words.getD (place % 16) 0
  let turn := ((turns.getD (n / 16) #[]).getD (n % 4) 0)
  ⟨s.d, s.b + turnLeft sum turn, s.b, s.c⟩

/-- The digest of sixteen bytes. -/
def md5 (bytes : List UInt8) : List UInt8 :=
  let word (bytes : List UInt8) : UInt32 := UInt32.ofNat (ofBigEndian bytes.reverse)
  let all := padded 64 8 (fun n => littleEndian 8 (n % 18446744073709551616)) bytes
  let s := (blocksOf 64 all.length all).foldl (fun s block =>
    let words := wordsOf 4 word block
    let t := (List.range 64).foldl (stepMd5 words) s
    ⟨s.a + t.a, s.b + t.b, s.c + t.c, s.d + t.d⟩)
    ⟨0x67452301, 0xefcdab89, 0x98badcfe, 0x10325476⟩
  [s.a, s.b, s.c, s.d].flatMap fun w => littleEndian 4 w.toNat

/-- Words with more of them, each made of those before it. -/
def extended (next : Array α → α) (count : Nat) (words : Array α) : Array α :=
  (List.range (count - words.size)).foldl (fun words _ => words.push (next words)) words

/-- The word so many places before the end. -/
def wordBack [Inhabited α] (words : Array α) (n : Nat) : α :=
  (words[words.size - n]?).getD default

/-- One step of the digest of twenty bytes. -/
def stepSha1 (words : Array UInt32) (s : Four × UInt32) (n : Nat) : Four × UInt32 :=
  let (q, e) := s
  let (mixed, added) : UInt32 × UInt32 := match n / 20 with
    | 0 => ((q.b &&& q.c) ||| (~~~q.b &&& q.d), 0x5a827999)
    | 1 => (q.b ^^^ q.c ^^^ q.d, 0x6ed9eba1)
    | 2 => ((q.b &&& q.c) ||| (q.b &&& q.d) ||| (q.c &&& q.d), 0x8f1bbcdc)
    | _ => (q.b ^^^ q.c ^^^ q.d, 0xca62c1d6)
  let first := turnLeft q.a 5 + mixed + e + added + words.getD n 0
  (⟨first, q.a, turnLeft q.b 30, q.c⟩, q.d)

/-- The digest of twenty bytes. -/
def sha1 (bytes : List UInt8) : List UInt8 :=
  let word (bytes : List UInt8) : UInt32 := UInt32.ofNat (ofBigEndian bytes)
  let all := padded 64 8 (bigEndian 8) bytes
  let next (w : Array UInt32) : UInt32 :=
    turnLeft (wordBack w 3 ^^^ wordBack w 8 ^^^ wordBack w 14 ^^^ wordBack w 16) 1
  let start : Four × UInt32 := (⟨0x67452301, 0xefcdab89, 0x98badcfe, 0x10325476⟩, 0xc3d2e1f0)
  let (s, e) := (blocksOf 64 all.length all).foldl (fun (s, e) block =>
    let words := extended next 80 (wordsOf 4 word block)
    let (t, f) := (List.range 80).foldl (stepSha1 words) (s, e)
    (⟨s.a + t.a, s.b + t.b, s.c + t.c, s.d + t.d⟩, e + f)) start
  [s.a, s.b, s.c, s.d, e].flatMap fun w => bigEndian 4 w.toNat

/-- One step of a digest with eight words, which are worked on with sums of turned words. -/
def stepEight [Add α] [AndOp α] [XorOp α] [Complement α] [Inhabited α] (wide narrow : α → α)
    (added words : Array α) (s : Array α) (n : Nat) : Array α :=
  let word (place : Nat) : α := (s[place]?).getD default
  let (a, b, c, e, f, g) := (word 0, word 1, word 2, word 4, word 5, word 6)
  let chosen := (e &&& f) ^^^ (~~~e &&& g)
  let most := (a &&& b) ^^^ (a &&& c) ^^^ (b &&& c)
  let first := word 7 + narrow e + chosen + (added[n]?).getD default + (words[n]?).getD default
  #[first + wide a + most, a, b, c, word 3 + first, e, f, g]

/-- The eight words after all blocks. -/
def sha256Words (start : Array UInt32) (bytes : List UInt8) : Array UInt32 :=
  let word (bytes : List UInt8) : UInt32 := UInt32.ofNat (ofBigEndian bytes)
  let all := padded 64 8 (bigEndian 8) bytes
  let mix (x y z : UInt32) (w : UInt32) : UInt32 := turnRight w x ^^^ turnRight w y ^^^ (w >>> z)
  let next (w : Array UInt32) : UInt32 :=
    mix 17 19 10 (wordBack w 2) + wordBack w 7 + mix 7 18 3 (wordBack w 15) + wordBack w 16
  let turn (x y z : UInt32) (w : UInt32) : UInt32 :=
    turnRight w x ^^^ turnRight w y ^^^ turnRight w z
  let added := cubicRoots.map fun w : UInt64 => (w >>> 32).toUInt32
  (blocksOf 64 all.length all).foldl (fun s block =>
    let words := extended next 64 (wordsOf 4 word block)
    let t := (List.range 64).foldl (stepEight (turn 2 13 22) (turn 6 11 25) added words) s
    s.zipWith (· + ·) t) start

/-- The eight words after all blocks, each twice as long. -/
def sha512Words (start : Array UInt64) (bytes : List UInt8) : Array UInt64 :=
  let word (bytes : List UInt8) : UInt64 := UInt64.ofNat (ofBigEndian bytes)
  let all := padded 128 16 (bigEndian 16) bytes
  let mix (x y z : UInt64) (w : UInt64) : UInt64 :=
    turnRightLong w x ^^^ turnRightLong w y ^^^ (w >>> z)
  let next (w : Array UInt64) : UInt64 :=
    mix 19 61 6 (wordBack w 2) + wordBack w 7 + mix 1 8 7 (wordBack w 15) + wordBack w 16
  let turn (x y z : UInt64) (w : UInt64) : UInt64 :=
    turnRightLong w x ^^^ turnRightLong w y ^^^ turnRightLong w z
  (blocksOf 128 all.length all).foldl (fun s block =>
    let words := extended next 80 (wordsOf 8 word block)
    let t := (List.range 80).foldl (stepEight (turn 28 34 39) (turn 14 18 41) cubicRoots words) s
    s.zipWith (· + ·) t) start

def sha256 (bytes : List UInt8) : List UInt8 :=
  let start := (squareRoots.extract 0 8).map fun w : UInt64 => (w >>> 32).toUInt32
  (sha256Words start bytes).toList.flatMap fun w => bigEndian 4 w.toNat

def sha224 (bytes : List UInt8) : List UInt8 :=
  let start := (squareRoots.extract 8 16).map UInt64.toUInt32
  ((sha256Words start bytes).toList.flatMap fun w => bigEndian 4 w.toNat).take 28

def sha512 (bytes : List UInt8) : List UInt8 :=
  (sha512Words (squareRoots.extract 0 8) bytes).toList.flatMap fun w => bigEndian 8 w.toNat

def sha384 (bytes : List UInt8) : List UInt8 :=
  ((sha512Words (squareRoots.extract 8 16) bytes).toList.flatMap fun w => bigEndian 8 w.toNat).take 48

/-- One step of the digest that mixes words in two ways, which change after sixteen steps. -/
def stepSm3 (words : Array UInt32) (s : Array UInt32) (n : Nat) : Array UInt32 :=
  let word (place : Nat) : UInt32 := s.getD place 0
  let (a, b, c, e, f, g) := (word 0, word 1, word 2, word 4, word 5, word 6)
  let added : UInt32 := if n < 16 then 0x79cc4519 else 0x7a879d8a
  let turned := turnLeft a 12
  let both := turnLeft (turned + e + turnLeft added (UInt32.ofNat (n % 32))) 7
  let chosen := if n < 16 then e ^^^ f ^^^ g else (e &&& f) ||| (~~~e &&& g)
  let most := if n < 16 then a ^^^ b ^^^ c else (a &&& b) ||| (a &&& c) ||| (b &&& c)
  let first := most + word 3 + (both ^^^ turned) + (words.getD n 0 ^^^ words.getD (n + 4) 0)
  let second := chosen + word 7 + both + words.getD n 0
  #[first, a, turnLeft b 9, c, second ^^^ turnLeft second 9 ^^^ turnLeft second 17, e,
    turnLeft f 19, g]

/-- The digest of 32 bytes that mixes words in two ways. -/
def sm3 (bytes : List UInt8) : List UInt8 :=
  let word (bytes : List UInt8) : UInt32 := UInt32.ofNat (ofBigEndian bytes)
  let all := padded 64 8 (bigEndian 8) bytes
  let spread (w : UInt32) : UInt32 := w ^^^ turnLeft w 15 ^^^ turnLeft w 23
  let next (w : Array UInt32) : UInt32 :=
    spread (wordBack w 16 ^^^ wordBack w 9 ^^^ turnLeft (wordBack w 3) 15)
      ^^^ turnLeft (wordBack w 13) 7 ^^^ wordBack w 6
  let start : Array UInt32 := #[0x7380166f, 0x4914b2b9, 0x172442d7, 0xda8a0600, 0xa96f30bc,
    0x163138aa, 0xe38dee4d, 0xb0fb0e4e]
  let s := (blocksOf 64 all.length all).foldl (fun s block =>
    let words := extended next 68 (wordsOf 4 word block)
    let t := (List.range 64).foldl (stepSm3 words) s
    s.zipWith (· ^^^ ·) t) start
  s.toList.flatMap fun w => bigEndian 4 w.toNat

/-- In which order the words of a block are used in each round. -/
def blakeOrders : List (List Nat) :=
  [[0, 1, 2, 3, 4, 5, 6, 7, 8, 9, 10, 11, 12, 13, 14, 15],
    [14, 10, 4, 8, 9, 15, 13, 6, 1, 12, 0, 2, 11, 7, 5, 3],
    [11, 8, 12, 0, 5, 2, 15, 13, 10, 14, 3, 6, 7, 1, 9, 4],
    [7, 9, 3, 1, 13, 12, 11, 14, 2, 6, 5, 10, 4, 0, 15, 8],
    [9, 0, 5, 7, 2, 4, 10, 15, 14, 1, 11, 12, 6, 8, 3, 13],
    [2, 12, 6, 10, 0, 11, 8, 3, 4, 13, 7, 5, 15, 14, 1, 9],
    [12, 5, 1, 15, 14, 13, 4, 10, 0, 7, 6, 3, 9, 2, 8, 11],
    [13, 11, 7, 14, 12, 1, 3, 9, 5, 0, 15, 4, 8, 6, 2, 10],
    [6, 15, 14, 9, 11, 3, 0, 8, 12, 2, 13, 7, 1, 4, 10, 5],
    [10, 2, 8, 4, 7, 6, 1, 5, 15, 11, 9, 14, 3, 12, 13, 0]]

/-- Which four words are mixed in one round. -/
def blakeGroups : List (Nat × Nat × Nat × Nat) :=
  [(0, 4, 8, 12), (1, 5, 9, 13), (2, 6, 10, 14), (3, 7, 11, 15),
    (0, 5, 10, 15), (1, 6, 11, 12), (2, 7, 8, 13), (3, 4, 9, 14)]

/-- Mixes two words of a block into four words. -/
def mixBlake (v : Array UInt64) (group : Nat × Nat × Nat × Nat) (x y : UInt64) : Array UInt64 :=
  let (i, j, k, l) := group
  let half (v : Array UInt64) (x : UInt64) (p q : UInt64) : Array UInt64 :=
    let a := v.getD i 0 + v.getD j 0 + x
    let d := turnRightLong (v.getD l 0 ^^^ a) p
    let c := v.getD k 0 + d
    let b := turnRightLong (v.getD j 0 ^^^ c) q
    (((v.setIfInBounds i a).setIfInBounds l d).setIfInBounds k c).setIfInBounds j b
  half (half v x 32 24) y 16 63

/-- The digest of at most 64 bytes that is made by adding and turning alone. -/
def blake (size : Nat) (bytes : List UInt8) : List UInt8 :=
  let start := squareRoots.extract 0 8
  let first := start.setIfInBounds 0 (start.getD 0 0 ^^^ UInt64.ofNat (0x01010000 + size))
  let blocks := if bytes.isEmpty then [[]] else blocksOf 128 bytes.length bytes
  let word (bytes : List UInt8) : UInt64 := UInt64.ofNat (ofBigEndian bytes.reverse)
  let (h, _) := blocks.zipIdx.foldl (fun (h, counted) (block, n) =>
    let counted := counted + block.length
    let words := wordsOf 8 word (block ++ List.replicate (128 - block.length) 0)
    let v := h ++ start
    let v := v.setIfInBounds 12 (v.getD 12 0 ^^^ UInt64.ofNat counted)
    let v := if n + 1 = blocks.length then v.setIfInBounds 14 (~~~(v.getD 14 0)) else v
    let v := (List.range 12).foldl (fun v round =>
      let order := (blakeOrders.getD (round % 10) []).toArray
      blakeGroups.zipIdx.foldl (fun v (group, g) =>
        mixBlake v group (words.getD (order.getD (2 * g) 0) 0)
          (words.getD (order.getD (2 * g + 1) 0) 0)) v) v
    let mixed := h.mapIdx fun place w => w ^^^ v.getD place 0 ^^^ v.getD (place + 8) 0
    (mixed, counted)) (first, 0)
  (h.toList.flatMap fun w => littleEndian 8 w.toNat).take size

end ToolHost.Checksum
