/-!
# SHA-256

The hash function of FIPS 180-4 on lists of bytes, written so that it can be evaluated in proofs:
every loop is a fold over a list.
-/

namespace Hyperspace.Foundations

namespace Sha256

abbrev Word := BitVec 32

def roundConstants : List Word :=
  [0x428a2f98, 0x71374491, 0xb5c0fbcf, 0xe9b5dba5, 0x3956c25b, 0x59f111f1, 0x923f82a4, 0xab1c5ed5,
    0xd807aa98, 0x12835b01, 0x243185be, 0x550c7dc3, 0x72be5d74, 0x80deb1fe, 0x9bdc06a7, 0xc19bf174,
    0xe49b69c1, 0xefbe4786, 0x0fc19dc6, 0x240ca1cc, 0x2de92c6f, 0x4a7484aa, 0x5cb0a9dc, 0x76f988da,
    0x983e5152, 0xa831c66d, 0xb00327c8, 0xbf597fc7, 0xc6e00bf3, 0xd5a79147, 0x06ca6351, 0x14292967,
    0x27b70a85, 0x2e1b2138, 0x4d2c6dfc, 0x53380d13, 0x650a7354, 0x766a0abb, 0x81c2c92e, 0x92722c85,
    0xa2bfe8a1, 0xa81a664b, 0xc24b8b70, 0xc76c51a3, 0xd192e819, 0xd6990624, 0xf40e3585, 0x106aa070,
    0x19a4c116, 0x1e376c08, 0x2748774c, 0x34b0bcb5, 0x391c0cb3, 0x4ed8aa4a, 0x5b9cca4f, 0x682e6ff3,
    0x748f82ee, 0x78a5636f, 0x84c87814, 0x8cc70208, 0x90befffa, 0xa4506ceb, 0xbef9a3f7, 0xc67178f2]

/-- The eight words that are carried from block to block and from round to round. -/
structure Hash where
  a : Word
  b : Word
  c : Word
  d : Word
  e : Word
  f : Word
  g : Word
  h : Word

def initialHash : Hash :=
  ⟨0x6a09e667, 0xbb67ae85, 0x3c6ef372, 0xa54ff53a, 0x510e527f, 0x9b05688c, 0x1f83d9ab, 0x5be0cd19⟩

def Hash.add (x y : Hash) : Hash :=
  ⟨x.a + y.a, x.b + y.b, x.c + y.c, x.d + y.d, x.e + y.e, x.f + y.f, x.g + y.g, x.h + y.h⟩

def Hash.words (x : Hash) : List Word := [x.a, x.b, x.c, x.d, x.e, x.f, x.g, x.h]

def choose (x y z : Word) : Word := (x &&& y) ^^^ (~~~x &&& z)

def majority (x y z : Word) : Word := (x &&& y) ^^^ (x &&& z) ^^^ (y &&& z)

def bigSigma0 (x : Word) : Word := x.rotateRight 2 ^^^ x.rotateRight 13 ^^^ x.rotateRight 22

def bigSigma1 (x : Word) : Word := x.rotateRight 6 ^^^ x.rotateRight 11 ^^^ x.rotateRight 25

def smallSigma0 (x : Word) : Word := x.rotateRight 7 ^^^ x.rotateRight 18 ^^^ (x >>> 3)

def smallSigma1 (x : Word) : Word := x.rotateRight 17 ^^^ x.rotateRight 19 ^^^ (x >>> 10)

def round (s : Hash) (constant word : Word) : Hash :=
  let t₁ := s.h + bigSigma1 s.e + choose s.e s.f s.g + constant + word
  let t₂ := bigSigma0 s.a + majority s.a s.b s.c
  ⟨t₁ + t₂, s.a, s.b, s.c, s.d + t₁, s.e, s.f, s.g⟩

/-- The next `n` words of the schedule; the newest word stands first. -/
def extendSchedule : Nat → List Word → List Word
  | 0, words => words
  | n + 1, words =>
    extendSchedule n
      ((smallSigma1 (words.getD 1 0) + words.getD 6 0 + smallSigma0 (words.getD 14 0) +
        words.getD 15 0) :: words)

def schedule (block : List Word) : List Word := (extendSchedule 48 block.reverse).reverse

def compress (hash : Hash) (block : List Word) : Hash :=
  hash.add ((roundConstants.zip (schedule block)).foldl (fun s kw => round s kw.1 kw.2) hash)

/-- The first `count` pieces of length `size`. -/
def pieces {α : Type} (size : Nat) : Nat → List α → List (List α)
  | 0, _ => []
  | count + 1, xs => xs.take size :: pieces size count (xs.drop size)

def toWord (bytes : List UInt8) : Word :=
  bytes.foldl (fun word byte => (word <<< 8) ||| BitVec.ofNat 32 byte.toNat) 0

def toBytes (word : Word) : List UInt8 :=
  [24, 16, 8, 0].map fun shift => UInt8.ofNat (word.toNat >>> shift)

def lengthBytes (bits : Nat) : List UInt8 :=
  [56, 48, 40, 32, 24, 16, 8, 0].map fun shift => UInt8.ofNat (bits >>> shift)

/-- The message, a one bit, zeros, and the length in bits: a whole number of blocks. -/
def pad (message : List UInt8) : List UInt8 :=
  message ++ 0x80 :: (List.replicate ((119 - message.length % 64) % 64) 0 ++
    lengthBytes (8 * message.length))

end Sha256

open Sha256 in
def sha256 (message : List UInt8) : List UInt8 :=
  let padded := pad message
  let blocks := (pieces 64 (padded.length / 64) padded).map fun block =>
    (pieces 4 16 block).map toWord
  (blocks.foldl compress initialHash).words.flatMap toBytes

/-- The digest of a text, in hexadecimal. -/
def sha256Hex (text : String) : String :=
  String.ofList ((sha256 text.toUTF8.toList).flatMap fun byte =>
    [Nat.digitChar (byte.toNat / 16), Nat.digitChar (byte.toNat % 16)])

/-- The digest of `abc` starts with `ba7816bf`. -/
example : (sha256 [0x61, 0x62, 0x63]).take 4 = [0xba, 0x78, 0x16, 0xbf] := by decide +kernel

end Hyperspace.Foundations
