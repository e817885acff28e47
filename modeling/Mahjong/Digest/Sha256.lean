import Mahjong.Text.Hex

/-!
This module contains the hash function SHA-256 on lists of bytes.
-/

namespace Mahjong.Digest

/--
The first 32 bits of the fractional parts of the cube roots of the first 64 primes.
-/
def roundConstants : Array UInt32 := #[
  0x428a2f98, 0x71374491, 0xb5c0fbcf, 0xe9b5dba5, 0x3956c25b, 0x59f111f1, 0x923f82a4, 0xab1c5ed5,
  0xd807aa98, 0x12835b01, 0x243185be, 0x550c7dc3, 0x72be5d74, 0x80deb1fe, 0x9bdc06a7, 0xc19bf174,
  0xe49b69c1, 0xefbe4786, 0x0fc19dc6, 0x240ca1cc, 0x2de92c6f, 0x4a7484aa, 0x5cb0a9dc, 0x76f988da,
  0x983e5152, 0xa831c66d, 0xb00327c8, 0xbf597fc7, 0xc6e00bf3, 0xd5a79147, 0x06ca6351, 0x14292967,
  0x27b70a85, 0x2e1b2138, 0x4d2c6dfc, 0x53380d13, 0x650a7354, 0x766a0abb, 0x81c2c92e, 0x92722c85,
  0xa2bfe8a1, 0xa81a664b, 0xc24b8b70, 0xc76c51a3, 0xd192e819, 0xd6990624, 0xf40e3585, 0x106aa070,
  0x19a4c116, 0x1e376c08, 0x2748774c, 0x34b0bcb5, 0x391c0cb3, 0x4ed8aa4a, 0x5b9cca4f, 0x682e6ff3,
  0x748f82ee, 0x78a5636f, 0x84c87814, 0x8cc70208, 0x90befffa, 0xa4506ceb, 0xbef9a3f7, 0xc67178f2]

/--
The eight words that are worked on.
-/
structure State where
  a : UInt32
  b : UInt32
  c : UInt32
  d : UInt32
  e : UInt32
  f : UInt32
  g : UInt32
  h : UInt32

namespace State

/--
The first 32 bits of the fractional parts of the square roots of the first eight primes.
-/
def initial : State :=
  ⟨0x6a09e667, 0xbb67ae85, 0x3c6ef372, 0xa54ff53a, 0x510e527f, 0x9b05688c, 0x1f83d9ab, 0x5be0cd19⟩

def add (s t : State) : State :=
  ⟨s.a + t.a, s.b + t.b, s.c + t.c, s.d + t.d, s.e + t.e, s.f + t.f, s.g + t.g, s.h + t.h⟩

def words (s : State) : List UInt32 :=
  [s.a, s.b, s.c, s.d, s.e, s.f, s.g, s.h]

end State

def rotateRight (x n : UInt32) : UInt32 :=
  (x >>> n) ||| (x <<< (32 - n))

/--
One round, with the sum of its message word and its constant.
-/
def round (s : State) (input : UInt32) : State :=
  let sum1 := rotateRight s.e 6 ^^^ rotateRight s.e 11 ^^^ rotateRight s.e 25
  let choice := (s.e &&& s.f) ^^^ (~~~s.e &&& s.g)
  let first := s.h + sum1 + choice + input
  let sum0 := rotateRight s.a 2 ^^^ rotateRight s.a 13 ^^^ rotateRight s.a 22
  let majority := (s.a &&& s.b) ^^^ (s.a &&& s.c) ^^^ (s.b &&& s.c)
  ⟨first + (sum0 + majority), s.a, s.b, s.c, s.d + first, s.e, s.f, s.g⟩

/--
The next word of a message schedule, from the sixteen words before it.
-/
def nextWord (schedule : Array UInt32) : UInt32 :=
  let before := fun n => schedule.getD (schedule.size - n) 0
  let w15 := before 15
  let w2 := before 2
  let sigma0 := rotateRight w15 7 ^^^ rotateRight w15 18 ^^^ (w15 >>> 3)
  let sigma1 := rotateRight w2 17 ^^^ rotateRight w2 19 ^^^ (w2 >>> 10)
  before 16 + sigma0 + before 7 + sigma1

/--
Add a number of words to a message schedule.
-/
def extendSchedule (schedule : Array UInt32) : Nat → Array UInt32
  | 0 => schedule
  | n + 1 => extendSchedule (schedule.push (nextWord schedule)) n

/--
Work one block of sixteen words into a state.
-/
def compress (s : State) (block : Array UInt32) : State :=
  let inputs := Array.zipWith (· + ·) (extendSchedule block 48) roundConstants
  s.add (inputs.foldl round s)

/--
The last `count` bytes of a number, the highest first.
-/
def bigEndian : (count n : Nat) → List UInt8
  | 0, _ => []
  | count + 1, n => bigEndian count (n / 256) ++ [UInt8.ofNat n]

/--
A message filled up to whole blocks: a one bit, zeros, and the length of the message in bits.
-/
def pad (message : List UInt8) : List UInt8 :=
  let length := message.length
  message ++ 0x80 :: List.replicate ((119 - length % 64) % 64) 0 ++ bigEndian 8 (8 * length)

/--
Bytes as words, the highest byte of each first.
-/
def toWords : List UInt8 → List UInt32
  | a :: b :: c :: d :: rest =>
    (a.toUInt32 <<< 24 ||| b.toUInt32 <<< 16 ||| c.toUInt32 <<< 8 ||| d.toUInt32) :: toWords rest
  | _ => []

/--
The hash of a message.
-/
def sha256 (message : List UInt8) : List UInt8 :=
  let words := (toWords (pad message)).toArray
  let state := (List.range (words.size / 16)).foldl
    (fun s i => compress s (words.extract (16 * i) (16 * i + 16))) .initial
  state.words.flatMap fun w => bigEndian 4 w.toNat

/--
The hash of bytes in hexadecimal digits.
-/
def ofBytes (message : List UInt8) : String :=
  Text.hexBytes (sha256 message)

/--
The hash of the UTF-8 bytes of a text, in hexadecimal digits.
-/
def ofText (text : String) : String :=
  ofBytes text.toUTF8.data.toList

example : ofText "abc"
    =
  "ba7816bf8f01cfea414140de5dae2223b00361a396177a9cb410ff61f20015ad" := by
  decide +kernel

end Mahjong.Digest
