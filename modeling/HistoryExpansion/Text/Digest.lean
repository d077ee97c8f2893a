import HistoryExpansion.Number
import HistoryExpansion.Text.Utf8

/-!
# Digests

Short numbers that stand for a long text of octets. Most are made block by block: the text is filled
up to whole blocks, its length being the last number in them, and each block is mixed into a state
of a few words. The mixing constants are the first bits of roots of the first primes, or of sines.
-/

namespace HistoryExpansion.Digest

/-! ## Constants -/

/-- The greatest number whose power is not greater than another. -/
def rootBelow (power value : Nat) : (bits : Nat) → (found : Nat) → Nat
  | 0, found => found
  | bits + 1, found =>
    let next := found + 2 ^ bits
    rootBelow power value bits (if next ^ power ≤ value then next else found)

/-- Whether a number is a prime. -/
def isPrime (n : Nat) : Bool :=
  2 ≤ n && ((List.range n).all fun d => d < 2 || n % d ≠ 0)

/-- The first primes, of which there are as many below this bound as are needed. -/
def primes : List Nat :=
  (List.range 410).filter isPrime

/-- The first bits behind the point of a root of a number. -/
def rootBits (power bits n : Nat) : Nat :=
  rootBelow power (n * 2 ^ (power * bits)) (bits + 5) 0 % 2 ^ bits

/-! ## Blocks -/

/-- The octets of a number, its highest one first. -/
def octetsOfNumber : (count : Nat) → Nat → Octets
  | 0, _ => []
  | count + 1, n => octetsOfNumber count (n / 256) ++ [(n % 256).toUInt8]

/-- The number of octets, the highest one first. -/
def numberOfOctets (octets : Octets) : Nat :=
  octets.foldl (fun value octet => value * 256 + octet.toNat) 0

/-- A text filled up to whole blocks, with its length in bits at the end. -/
def filledUp (block field : Nat) (highFirst : Bool) (octets : Octets) : Octets :=
  let size := octets.length
  let room := (2 * block - 1 - field - size % block) % block
  let length := octetsOfNumber field (8 * size)
  octets ++ [0x80] ++ List.replicate room 0 ++ (if highFirst then length else length.reverse)

/-- Words of so many octets, as numbers. -/
def wordsOf (size : Nat) (highFirst : Bool) : (fuel : Nat) → Octets → List Nat
  | 0, _ => []
  | _, [] => []
  | fuel + 1, octets =>
    let word := octets.take size
    numberOfOctets (if highFirst then word else word.reverse) ::
      wordsOf size highFirst fuel (octets.drop size)

/-- Words in blocks of so many. -/
def blocksOf {α : Type} (size : Nat) : (fuel : Nat) → List α → List (List α)
  | 0, _ => []
  | _, [] => []
  | fuel + 1, words => words.take size :: blocksOf size fuel (words.drop size)

/-- A word turned to the left. -/
def turned32 (count : Nat) (x : UInt32) : UInt32 :=
  (x <<< count.toUInt32) ||| (x >>> (32 - count).toUInt32)

/-- A word turned to the right. -/
def turnedRight64 (count : Nat) (x : UInt64) : UInt64 :=
  (x >>> count.toUInt64) ||| (x <<< (64 - count).toUInt64)

/-! ## Message digest 5 -/

/-- The first bits of the sines of whole numbers. -/
def sineBits : Array UInt32 :=
  #[0xd76aa478, 0xe8c7b756, 0x242070db, 0xc1bdceee, 0xf57c0faf, 0x4787c62a, 0xa8304613, 0xfd469501,
    0x698098d8, 0x8b44f7af, 0xffff5bb1, 0x895cd7be, 0x6b901122, 0xfd987193, 0xa679438e, 0x49b40821,
    0xf61e2562, 0xc040b340, 0x265e5a51, 0xe9b6c7aa, 0xd62f105d, 0x02441453, 0xd8a1e681, 0xe7d3fbc8,
    0x21e1cde6, 0xc33707d6, 0xf4d50d87, 0x455a14ed, 0xa9e3e905, 0xfcefa3f8, 0x676f02d9, 0x8d2a4c8a,
    0xfffa3942, 0x8771f681, 0x6d9d6122, 0xfde5380c, 0xa4beea44, 0x4bdecfa9, 0xf6bb4b60, 0xbebfbc70,
    0x289b7ec6, 0xeaa127fa, 0xd4ef3085, 0x04881d05, 0xd9d4d039, 0xe6db99e5, 0x1fa27cf8, 0xc4ac5665,
    0xf4292244, 0x432aff97, 0xab9423a7, 0xfc93a039, 0x655b59c3, 0x8f0ccc92, 0xffeff47d, 0x85845dd1,
    0x6fa87e4f, 0xfe2ce6e0, 0xa3014314, 0x4e0811a1, 0xf7537e82, 0xbd3af235, 0x2ad7d2bb, 0xeb86d391]

/-- A state of four words. -/
structure FourWords where
  /-- The first word. -/
  a : UInt32
  /-- The second word. -/
  b : UInt32
  /-- The third word. -/
  c : UInt32
  /-- The fourth word. -/
  d : UInt32

/-- How far words are turned in the four rounds of sixteen steps. -/
def md5Turns : List (List Nat) :=
  [[7, 12, 17, 22], [5, 9, 14, 20], [4, 11, 16, 23], [6, 10, 15, 21]]

/-- A step that mixes a word in. -/
def md5Step (block : Array UInt32) (state : FourWords) (i : Nat) : FourWords :=
  let ⟨a, b, c, d⟩ := state
  let round := i / 16
  let (mixed, place) :=
    match round with
    | 0 => ((b &&& c) ||| (~~~b &&& d), i)
    | 1 => ((d &&& b) ||| (~~~d &&& c), (5 * i + 1) % 16)
    | 2 => (b ^^^ c ^^^ d, (3 * i + 5) % 16)
    | _ => (c ^^^ (b ||| ~~~d), (7 * i) % 16)
  let sum := a + mixed + sineBits.getD i 0 + block.getD place 0
  let turn := (md5Turns.getD round []).getD (i % 4) 0
  ⟨d, b + turned32 turn sum, b, c⟩

/-- Mixes a block in. -/
def md5Block (state : FourWords) (block : List Nat) : FourWords :=
  let words := (block.map Nat.toUInt32).toArray
  let next := (List.range 64).foldl (md5Step words) state
  ⟨state.a + next.a, state.b + next.b, state.c + next.c, state.d + next.d⟩

/-- The digest of sixteen octets whose words have their lowest octet first. -/
def md5 (octets : Octets) : Octets :=
  let text := filledUp 64 8 false octets
  let blocks := blocksOf 16 (text.length + 1) (wordsOf 4 false (text.length + 1) text)
  let ⟨a, b, c, d⟩ := blocks.foldl md5Block ⟨0x67452301, 0xefcdab89, 0x98badcfe, 0x10325476⟩
  [a, b, c, d].flatMap fun word => (octetsOfNumber 4 word.toNat).reverse

/-! ## Secure hash 1 -/

/-- The eighty words that a block of sixteen is stretched to. -/
def sha1Words (block : List Nat) : Array UInt32 :=
  (List.range 64).foldl
    (fun words i =>
      let at' (k : Nat) : UInt32 := words.getD (i + 16 - k) 0
      words.push (turned32 1 (at' 3 ^^^ at' 8 ^^^ at' 14 ^^^ at' 16)))
    (block.map Nat.toUInt32).toArray

/-- Mixes a block in. -/
def sha1Block (state : List UInt32) (block : List Nat) : List UInt32 :=
  let words := sha1Words block
  let step (state : List UInt32) (i : Nat) : List UInt32 :=
    match state with
    | [a, b, c, d, e] =>
      let (mixed, constant) : UInt32 × UInt32 :=
        if i < 20 then ((b &&& c) ||| (~~~b &&& d), 0x5a827999)
        else if i < 40 then (b ^^^ c ^^^ d, 0x6ed9eba1)
        else if i < 60 then ((b &&& c) ||| (b &&& d) ||| (c &&& d), 0x8f1bbcdc)
        else (b ^^^ c ^^^ d, 0xca62c1d6)
      [turned32 5 a + mixed + e + constant + words.getD i 0, a, turned32 30 b, c, d]
    | other => other
  let next := (List.range 80).foldl step state
  (state.zip next).map fun (a, b) => a + b

/-- The digest of twenty octets. -/
def sha1 (octets : Octets) : Octets :=
  let text := filledUp 64 8 true octets
  let blocks := blocksOf 16 (text.length + 1) (wordsOf 4 true (text.length + 1) text)
  let start : List UInt32 := [0x67452301, 0xefcdab89, 0x98badcfe, 0x10325476, 0xc3d2e1f0]
  (blocks.foldl sha1Block start).flatMap fun word => octetsOfNumber 4 word.toNat

/-! ## Secure hash 2 -/

/-- What the two families of the second secure hash differ in. -/
structure Sha2 where
  /-- The number of bits of a word. -/
  bits : Nat
  /-- The number of steps for a block. -/
  steps : Nat
  /-- How far words are turned: for the two sums of the state. -/
  sums : List Nat × List Nat
  /-- How far words are turned, and last how far one is moved: for stretching a block. -/
  stretches : List Nat × List Nat

/-- The family with words of four octets. -/
def sha2Short : Sha2 :=
  ⟨32, 64, ([2, 13, 22], [6, 11, 25]), ([7, 18, 3], [17, 19, 10])⟩

/-- The family with words of eight octets. -/
def sha2Long : Sha2 :=
  ⟨64, 80, ([28, 34, 39], [14, 18, 41]), ([1, 8, 7], [19, 61, 6])⟩

/-- A word turned to the right. -/
def Sha2.turned (family : Sha2) (count : Nat) (x : UInt64) : UInt64 :=
  if family.bits = 64 then turnedRight64 count x
  else (turned32 (32 - count) x.toUInt32).toUInt64

/-- A sum within a word. -/
def Sha2.add (family : Sha2) (words : List UInt64) : UInt64 :=
  let sum := words.foldl (· + ·) 0
  if family.bits = 64 then sum else sum.toUInt32.toUInt64

/-- A word turned in three ways, all of them together. -/
def Sha2.sum (family : Sha2) (counts : List Nat) (x : UInt64) : UInt64 :=
  (counts.map fun count => family.turned count x).foldl (· ^^^ ·) 0

/-- A word turned in two ways and moved in a third, all of them together. -/
def Sha2.stretch (family : Sha2) (counts : List Nat) (x : UInt64) : UInt64 :=
  match counts with
  | [a, b, c] => family.turned a x ^^^ family.turned b x ^^^ (x >>> c.toUInt64)
  | _ => x

/-- The constants of the steps. -/
def Sha2.constants (family : Sha2) : Array UInt64 :=
  ((primes.take family.steps).map fun n => (rootBits 3 family.bits n).toUInt64).toArray

/-- Mixes a block in. -/
def Sha2.block (family : Sha2) (constants : Array UInt64) (state : List UInt64) (block : List Nat) :
    List UInt64 :=
  let words := (List.range (family.steps - 16)).foldl
    (fun (words : Array UInt64) i =>
      let at' (k : Nat) : UInt64 := words.getD (i + 16 - k) 0
      words.push (family.add [family.stretch family.stretches.2 (at' 2), at' 7,
        family.stretch family.stretches.1 (at' 15), at' 16]))
    (block.map Nat.toUInt64).toArray
  let step (state : List UInt64) (i : Nat) : List UInt64 :=
    match state with
    | [a, b, c, d, e, f, g, h] =>
      let choice := (e &&& f) ^^^ (~~~e &&& g)
      let first := family.add [h, family.sum family.sums.2 e, choice, constants.getD i 0,
        words.getD i 0]
      let most := (a &&& b) ^^^ (a &&& c) ^^^ (b &&& c)
      let second := family.add [family.sum family.sums.1 a, most]
      [family.add [first, second], a, b, c, family.add [d, first], e, f, g]
    | other => other
  let next := (List.range family.steps).foldl step state
  (state.zip next).map fun (a, b) => family.add [a, b]

/-- The digest of so many octets that starts with some words. -/
def Sha2.digest (family : Sha2) (start : List UInt64) (size : Nat) (octets : Octets) : Octets :=
  let width := family.bits / 8
  let text := filledUp (16 * width) (2 * width) true octets
  let blocks := blocksOf 16 (text.length + 1) (wordsOf width true (text.length + 1) text)
  let constants := family.constants
  ((blocks.foldl (family.block constants) start).flatMap fun word =>
    octetsOfNumber width word.toNat).take size

/-- The digest of thirty-two octets. -/
def sha256 : Octets → Octets :=
  sha2Short.digest ((primes.take 8).map fun n => (rootBits 2 32 n).toUInt64) 32

/-- The digest of twenty-eight octets. -/
def sha224 : Octets → Octets :=
  sha2Short.digest
    (((primes.drop 8).take 8).map fun n => (rootBits 2 64 n % 2 ^ 32).toUInt64) 28

/-- The digest of sixty-four octets. -/
def sha512 : Octets → Octets :=
  sha2Long.digest ((primes.take 8).map fun n => (rootBits 2 64 n).toUInt64) 64

/-- The digest of forty-eight octets. -/
def sha384 : Octets → Octets :=
  sha2Long.digest (((primes.drop 8).take 8).map fun n => (rootBits 2 64 n).toUInt64) 48

/-! ## Sums -/

/-- The remainder of a division of polynomials, an octet further. -/
def crcStep (remainder : UInt32) (octet : UInt8) : UInt32 :=
  (List.range 8).foldl
    (fun (r : UInt32) _ => if r &&& 0x80000000 ≠ 0 then (r <<< 1) ^^^ 0x04c11db7 else r <<< 1)
    (remainder ^^^ (octet.toUInt32 <<< 24))

/-- The octets of a length, the lowest one first, without zeros at the end. -/
def lengthOctets : (fuel : Nat) → Nat → Octets
  | 0, _ => []
  | _, 0 => []
  | fuel + 1, n => (n % 256).toUInt8 :: lengthOctets fuel (n / 256)

/-- The cyclic check of octets and of their number. -/
def cyclicCheck (octets : Octets) : Nat :=
  (~~~((octets ++ lengthOctets 8 octets.length).foldl crcStep 0)).toNat

/-- The sum of octets in which the sum is turned each time. -/
def turnedSum (octets : Octets) : Nat :=
  octets.foldl (fun sum octet => (sum / 2 + sum % 2 * 32768 + octet.toNat) % 65536) 0

/-- The sum of octets, folded into two octets. -/
def foldedSum (octets : Octets) : Nat :=
  let sum := sumOf (octets.map UInt8.toNat) % 2 ^ 32
  let once := sum % 65536 + sum / 65536
  once % 65536 + once / 65536

/-- A digest in base sixteen. -/
def hexadecimal (digest : Octets) : String :=
  String.ofList (digest.flatMap fun octet =>
    [Nat.digitChar (octet.toNat / 16), Nat.digitChar (octet.toNat % 16)])

end HistoryExpansion.Digest
