set_option autoImplicit false

/-! # Digests

Numbers of a fixed size for bytes of any number. The bytes are filled up to whole blocks, the last
of which tells how many bits there were, and a state of a few words is changed by one block after
another. -/

namespace Confine.Text.Digest

/-- A word with its bits moved to the left, those that leave it coming in at the right. -/
def rotated (x n : UInt32) : UInt32 :=
  (x <<< n) ||| (x >>> (32 - n))

/-- The bytes of a number, the least one first. -/
def littleBytes : Nat → Nat → List UInt8
  | 0, _ => []
  | count + 1, n => UInt8.ofNat (n % 256) :: littleBytes count (n / 256)

/-- Bytes filled up to whole blocks of sixty-four. -/
def filled (littleFirst : Bool) (bytes : List UInt8) : List UInt8 :=
  let zeros := (119 - bytes.length % 64) % 64
  let length := littleBytes 8 (8 * bytes.length)
  bytes ++ 0x80 :: List.replicate zeros 0 ++ if littleFirst then length else length.reverse

/-- The words of some bytes. -/
def words (littleFirst : Bool) : List UInt8 → List UInt32
  | a :: b :: c :: d :: rest =>
    let word (w x y z : UInt8) : UInt32 :=
      w.toUInt32 ||| x.toUInt32 <<< 8 ||| y.toUInt32 <<< 16 ||| z.toUInt32 <<< 24
    (if littleFirst then word a b c d else word d c b a) :: words littleFirst rest
  | _ => []

/-- The blocks of sixteen words. The number bounds how many there are. -/
def blocks : Nat → List UInt32 → List (Array UInt32)
  | 0, _ => []
  | _, [] => []
  | bound + 1, ws => (ws.take 16).toArray :: blocks bound (ws.drop 16)

/-- The blocks of some bytes. -/
def blocksOf (littleFirst : Bool) (bytes : List UInt8) : List (Array UInt32) :=
  let ws := words littleFirst (filled littleFirst bytes)
  blocks (ws.length + 1) ws

/-- Bytes in hexadecimal digits. -/
def hexadecimal (bytes : List UInt8) : String :=
  String.ofList (bytes.flatMap fun b =>
    [Nat.digitChar (b.toNat / 16), Nat.digitChar (b.toNat % 16)])

/-- The bytes of the words of a state. -/
def bytesOf (littleFirst : Bool) (state : List UInt32) : List UInt8 :=
  state.flatMap fun w =>
    let bytes := littleBytes 4 w.toNat
    if littleFirst then bytes else bytes.reverse

/-! ## Four words -/

/-- The constants of the rounds: parts of the sines of whole numbers. -/
def sines : Array UInt32 := #[
  0xd76aa478, 0xe8c7b756, 0x242070db, 0xc1bdceee, 0xf57c0faf, 0x4787c62a, 0xa8304613, 0xfd469501,
  0x698098d8, 0x8b44f7af, 0xffff5bb1, 0x895cd7be, 0x6b901122, 0xfd987193, 0xa679438e, 0x49b40821,
  0xf61e2562, 0xc040b340, 0x265e5a51, 0xe9b6c7aa, 0xd62f105d, 0x02441453, 0xd8a1e681, 0xe7d3fbc8,
  0x21e1cde6, 0xc33707d6, 0xf4d50d87, 0x455a14ed, 0xa9e3e905, 0xfcefa3f8, 0x676f02d9, 0x8d2a4c8a,
  0xfffa3942, 0x8771f681, 0x6d9d6122, 0xfde5380c, 0xa4beea44, 0x4bdecfa9, 0xf6bb4b60, 0xbebfbc70,
  0x289b7ec6, 0xeaa127fa, 0xd4ef3085, 0x04881d05, 0xd9d4d039, 0xe6db99e5, 0x1fa27cf8, 0xc4ac5665,
  0xf4292244, 0x432aff97, 0xab9423a7, 0xfc93a039, 0x655b59c3, 0x8f0ccc92, 0xffeff47d, 0x85845dd1,
  0x6fa87e4f, 0xfe2ce6e0, 0xa3014314, 0x4e0811a1, 0xf7537e82, 0xbd3af235, 0x2ad7d2bb, 0xeb86d391]

/-- How far the rounds rotate. -/
def shifts : Array UInt32 := #[7, 12, 17, 22, 5, 9, 14, 20, 4, 11, 16, 23, 6, 10, 15, 21]

/-- The digest of four words. -/
def four (bytes : List UInt8) : List UInt8 :=
  let start : UInt32 × UInt32 × UInt32 × UInt32 :=
    (0x67452301, 0xefcdab89, 0x98badcfe, 0x10325476)
  let (a, b, c, d) := (blocksOf true bytes).foldl (fun (a, b, c, d) block =>
    let (a', b', c', d') := (List.range 64).foldl (fun (a, b, c, d) k =>
      let (f, g) : UInt32 × Nat :=
        if k < 16 then ((b &&& c) ||| (~~~b &&& d), k)
        else if k < 32 then ((d &&& b) ||| (~~~d &&& c), (5 * k + 1) % 16)
        else if k < 48 then (b ^^^ c ^^^ d, (3 * k + 5) % 16)
        else (c ^^^ (b ||| ~~~d), (7 * k) % 16)
      let sum := a + f + (sines[k]?).getD 0 + (block[g]?).getD 0
      (d, b + rotated sum ((shifts[k / 16 * 4 + k % 4]?).getD 0), b, c)) (a, b, c, d)
    (a + a', b + b', c + c', d + d')) start
  bytesOf true [a, b, c, d]

/-! ## Five words -/

/-- A block continued to eighty words. -/
def eighty (block : Array UInt32) : Array UInt32 :=
  (List.range 64).foldl (fun ws k =>
    let at_ (j : Nat) : UInt32 := (ws[j]?).getD 0
    ws.push (rotated (at_ (k + 13) ^^^ at_ (k + 8) ^^^ at_ (k + 2) ^^^ at_ k) 1)) block

/-- The digest of five words. -/
def five (bytes : List UInt8) : List UInt8 :=
  let start : UInt32 × UInt32 × UInt32 × UInt32 × UInt32 :=
    (0x67452301, 0xefcdab89, 0x98badcfe, 0x10325476, 0xc3d2e1f0)
  let (a, b, c, d, e) := (blocksOf false bytes).foldl (fun (a, b, c, d, e) block =>
    let ws := eighty block
    let (a', b', c', d', e') := (List.range 80).foldl (fun (a, b, c, d, e) k =>
      let (f, g) : UInt32 × UInt32 :=
        if k < 20 then ((b &&& c) ||| (~~~b &&& d), 0x5a827999)
        else if k < 40 then (b ^^^ c ^^^ d, 0x6ed9eba1)
        else if k < 60 then ((b &&& c) ||| (b &&& d) ||| (c &&& d), 0x8f1bbcdc)
        else (b ^^^ c ^^^ d, 0xca62c1d6)
      (rotated a 5 + f + e + g + (ws[k]?).getD 0, a, rotated b 30, c, d)) (a, b, c, d, e)
    (a + a', b + b', c + c', d + d', e + e')) start
  bytesOf false [a, b, c, d, e]

/-! ## Eight words -/

/-- The constants of the rounds: parts of the cube roots of primes. -/
def cubeRoots : Array UInt32 := #[
  0x428a2f98, 0x71374491, 0xb5c0fbcf, 0xe9b5dba5, 0x3956c25b, 0x59f111f1, 0x923f82a4, 0xab1c5ed5,
  0xd807aa98, 0x12835b01, 0x243185be, 0x550c7dc3, 0x72be5d74, 0x80deb1fe, 0x9bdc06a7, 0xc19bf174,
  0xe49b69c1, 0xefbe4786, 0x0fc19dc6, 0x240ca1cc, 0x2de92c6f, 0x4a7484aa, 0x5cb0a9dc, 0x76f988da,
  0x983e5152, 0xa831c66d, 0xb00327c8, 0xbf597fc7, 0xc6e00bf3, 0xd5a79147, 0x06ca6351, 0x14292967,
  0x27b70a85, 0x2e1b2138, 0x4d2c6dfc, 0x53380d13, 0x650a7354, 0x766a0abb, 0x81c2c92e, 0x92722c85,
  0xa2bfe8a1, 0xa81a664b, 0xc24b8b70, 0xc76c51a3, 0xd192e819, 0xd6990624, 0xf40e3585, 0x106aa070,
  0x19a4c116, 0x1e376c08, 0x2748774c, 0x34b0bcb5, 0x391c0cb3, 0x4ed8aa4a, 0x5b9cca4f, 0x682e6ff3,
  0x748f82ee, 0x78a5636f, 0x84c87814, 0x8cc70208, 0x90befffa, 0xa4506ceb, 0xbef9a3f7, 0xc67178f2]

/-- The state at the start: parts of the square roots of primes. -/
def squareRoots : List UInt32 :=
  [0x6a09e667, 0xbb67ae85, 0x3c6ef372, 0xa54ff53a, 0x510e527f, 0x9b05688c, 0x1f83d9ab, 0x5be0cd19]

/-- A word with its bits moved to the right, those that leave it coming in at the left. -/
def rotatedRight (x n : UInt32) : UInt32 :=
  rotated x (32 - n)

/-- A block continued to sixty-four words. -/
def sixtyFour (block : Array UInt32) : Array UInt32 :=
  (List.range 48).foldl (fun ws k =>
    let at_ (j : Nat) : UInt32 := (ws[j]?).getD 0
    let x := at_ (k + 1)
    let y := at_ (k + 14)
    let s := rotatedRight x 7 ^^^ rotatedRight x 18 ^^^ (x >>> 3)
    let t := rotatedRight y 17 ^^^ rotatedRight y 19 ^^^ (y >>> 10)
    ws.push (at_ k + s + at_ (k + 9) + t)) block

/-- One round of the digest of eight words. -/
def eightRound (state : List UInt32) (constant word : UInt32) : List UInt32 :=
  match state with
  | [a, b, c, d, e, f, g, h] =>
    let s := rotatedRight e 6 ^^^ rotatedRight e 11 ^^^ rotatedRight e 25
    let choice := (e &&& f) ^^^ (~~~e &&& g)
    let one := h + s + choice + constant + word
    let t := rotatedRight a 2 ^^^ rotatedRight a 13 ^^^ rotatedRight a 22
    let majority := (a &&& b) ^^^ (a &&& c) ^^^ (b &&& c)
    [one + t + majority, a, b, c, d + one, e, f, g]
  | _ => state

/-- The digest of eight words. -/
def eight (bytes : List UInt8) : List UInt8 :=
  bytesOf false ((blocksOf false bytes).foldl (fun state block =>
    let ws := sixtyFour block
    let changed := (List.range 64).foldl (fun s k =>
      eightRound s ((cubeRoots[k]?).getD 0) ((ws[k]?).getD 0)) state
    (state.zip changed).map fun (x, y) => x + y) squareRoots)

/-! ## The remainder of a division -/

/-- The remainder after one more byte, where bytes are polynomials over two elements. -/
def remainderStep (sum : UInt32) (b : UInt8) : UInt32 :=
  (List.range 8).foldl (fun r _ =>
    if r >>> 31 = 1 then (r <<< 1) ^^^ 0x04c11db7 else r <<< 1) (sum ^^^ (b.toUInt32 <<< 24))

/-- The bytes of a number, without zeros at the end. The number bounds them. -/
def shortBytes : Nat → Nat → List UInt8
  | 0, _ => []
  | bound + 1, n =>
    if n = 0 then [] else UInt8.ofNat (n % 256) :: shortBytes bound (n / 256)

/-- The remainder of bytes and their number. -/
def remainder (bytes : List UInt8) : UInt32 :=
  ~~~((bytes ++ shortBytes 8 bytes.length).foldl remainderStep 0)

end Confine.Text.Digest
