import RoutingPolicy.Text.Hex

/-!
# The digest SHA-256

The digest of a sequence of bytes, as FIPS 180-4 defines it: the message is padded to blocks of 64
bytes, and every block is mixed into a state of eight words of 32 bits.
-/

set_option autoImplicit false

namespace RoutingPolicy.Sha256

def roundConstants : List UInt32 := [
  0x428a2f98, 0x71374491, 0xb5c0fbcf, 0xe9b5dba5, 0x3956c25b, 0x59f111f1, 0x923f82a4, 0xab1c5ed5,
  0xd807aa98, 0x12835b01, 0x243185be, 0x550c7dc3, 0x72be5d74, 0x80deb1fe, 0x9bdc06a7, 0xc19bf174,
  0xe49b69c1, 0xefbe4786, 0x0fc19dc6, 0x240ca1cc, 0x2de92c6f, 0x4a7484aa, 0x5cb0a9dc, 0x76f988da,
  0x983e5152, 0xa831c66d, 0xb00327c8, 0xbf597fc7, 0xc6e00bf3, 0xd5a79147, 0x06ca6351, 0x14292967,
  0x27b70a85, 0x2e1b2138, 0x4d2c6dfc, 0x53380d13, 0x650a7354, 0x766a0abb, 0x81c2c92e, 0x92722c85,
  0xa2bfe8a1, 0xa81a664b, 0xc24b8b70, 0xc76c51a3, 0xd192e819, 0xd6990624, 0xf40e3585, 0x106aa070,
  0x19a4c116, 0x1e376c08, 0x2748774c, 0x34b0bcb5, 0x391c0cb3, 0x4ed8aa4a, 0x5b9cca4f, 0x682e6ff3,
  0x748f82ee, 0x78a5636f, 0x84c87814, 0x8cc70208, 0x90befffa, 0xa4506ceb, 0xbef9a3f7, 0xc67178f2]

structure State where
  a : UInt32
  b : UInt32
  c : UInt32
  d : UInt32
  e : UInt32
  f : UInt32
  g : UInt32
  h : UInt32

namespace State

def initial : State :=
  ⟨0x6a09e667, 0xbb67ae85, 0x3c6ef372, 0xa54ff53a, 0x510e527f, 0x9b05688c, 0x1f83d9ab, 0x5be0cd19⟩

def add (s t : State) : State :=
  ⟨s.a + t.a, s.b + t.b, s.c + t.c, s.d + t.d, s.e + t.e, s.f + t.f, s.g + t.g, s.h + t.h⟩

def words (s : State) : List UInt32 := [s.a, s.b, s.c, s.d, s.e, s.f, s.g, s.h]

end State

def rotateRight (x : UInt32) (n : UInt32) : UInt32 := (x >>> n) ||| (x <<< (32 - n))

def round (s : State) (constant word : UInt32) : State :=
  let choice := (s.e &&& s.f) ^^^ (~~~s.e &&& s.g)
  let majority := (s.a &&& s.b) ^^^ (s.a &&& s.c) ^^^ (s.b &&& s.c)
  let sumE := rotateRight s.e 6 ^^^ rotateRight s.e 11 ^^^ rotateRight s.e 25
  let sumA := rotateRight s.a 2 ^^^ rotateRight s.a 13 ^^^ rotateRight s.a 22
  let t := s.h + sumE + choice + constant + word
  ⟨t + sumA + majority, s.a, s.b, s.c, s.d + t, s.e, s.f, s.g⟩

def nextWord (window : List UInt32) : UInt32 :=
  let word := fun i => window.getD i 0
  let early := word 1
  let late := word 14
  let small := rotateRight early 7 ^^^ rotateRight early 18 ^^^ (early >>> 3)
  let large := rotateRight late 17 ^^^ rotateRight late 19 ^^^ (late >>> 10)
  word 0 + small + word 9 + large

/-- Runs a round for each constant; `window` holds the next sixteen words of the schedule. -/
def rounds (s : State) (window : List UInt32) : List UInt32 → State
  | [] => s
  | constant :: rest =>
    rounds (round s constant (window.headD 0)) (window.tail ++ [nextWord window]) rest

def mixBlock (s : State) (block : List UInt32) : State := s.add (rounds s block roundConstants)

def wordsOfBytes : List UInt8 → List UInt32
  | a :: b :: c :: d :: rest =>
    ((a.toUInt32 <<< 24) ||| (b.toUInt32 <<< 16) ||| (c.toUInt32 <<< 8) ||| d.toUInt32) ::
      wordsOfBytes rest
  | _ => []

def lengthBytes (n : Nat) : List UInt8 :=
  [56, 48, 40, 32, 24, 16, 8, 0].map fun shift => UInt8.ofNat (n >>> shift)

/-- The message with a bit that is set, as few zeros as make blocks of 64 bytes, and its length in
bits. -/
def pad (bytes : List UInt8) : List UInt8 :=
  let zeros := (119 - bytes.length % 64) % 64
  bytes ++ 0x80 :: (List.replicate zeros 0 ++ lengthBytes (8 * bytes.length))

/-- Mixes all blocks into the state; each takes one unit of `fuel`. -/
def mixAll : Nat → State → List UInt32 → State
  | 0, s, _ => s
  | _, s, [] => s
  | fuel + 1, s, words => mixAll fuel (mixBlock s (words.take 16)) (words.drop 16)

def wordText (w : UInt32) : String :=
  String.join <| [24, 16, 8, 0].map fun shift => Text.hexByte ((w.toNat >>> shift) % 256)

def hexDigest (text : String) : String :=
  let words := wordsOfBytes (pad text.toUTF8.toList)
  let s := mixAll words.length .initial words
  String.join (s.words.map wordText)

end RoutingPolicy.Sha256
