/-!
# SHA-256

The digest of a sequence of bytes. A message is padded to whole blocks of 64
bytes, and each block is mixed into a state of eight words in 64 rounds.
-/

namespace PlatformAudit.Sha256

/-- The constants of the rounds: fractional parts of the cube roots of the first 64 primes. -/
def roundConstants : List UInt32 :=
  [0x428a2f98, 0x71374491, 0xb5c0fbcf, 0xe9b5dba5, 0x3956c25b, 0x59f111f1, 0x923f82a4, 0xab1c5ed5,
   0xd807aa98, 0x12835b01, 0x243185be, 0x550c7dc3, 0x72be5d74, 0x80deb1fe, 0x9bdc06a7, 0xc19bf174,
   0xe49b69c1, 0xefbe4786, 0x0fc19dc6, 0x240ca1cc, 0x2de92c6f, 0x4a7484aa, 0x5cb0a9dc, 0x76f988da,
   0x983e5152, 0xa831c66d, 0xb00327c8, 0xbf597fc7, 0xc6e00bf3, 0xd5a79147, 0x06ca6351, 0x14292967,
   0x27b70a85, 0x2e1b2138, 0x4d2c6dfc, 0x53380d13, 0x650a7354, 0x766a0abb, 0x81c2c92e, 0x92722c85,
   0xa2bfe8a1, 0xa81a664b, 0xc24b8b70, 0xc76c51a3, 0xd192e819, 0xd6990624, 0xf40e3585, 0x106aa070,
   0x19a4c116, 0x1e376c08, 0x2748774c, 0x34b0bcb5, 0x391c0cb3, 0x4ed8aa4a, 0x5b9cca4f, 0x682e6ff3,
   0x748f82ee, 0x78a5636f, 0x84c87814, 0x8cc70208, 0x90befffa, 0xa4506ceb, 0xbef9a3f7, 0xc67178f2]

/-- The eight words that are carried from block to block. -/
structure State where
  a : UInt32
  b : UInt32
  c : UInt32
  d : UInt32
  e : UInt32
  f : UInt32
  g : UInt32
  h : UInt32

/-- The state before the first block: fractional parts of the square roots of the first eight
primes. -/
def initial : State :=
  ⟨0x6a09e667, 0xbb67ae85, 0x3c6ef372, 0xa54ff53a, 0x510e527f, 0x9b05688c, 0x1f83d9ab, 0x5be0cd19⟩

/-- Rotates a word to the right. -/
def rotate (x : UInt32) (n : UInt32) : UInt32 :=
  (x >>> n) ||| (x <<< (32 - n))

/-- One round, with the sum of its constant and its word of the schedule. -/
def round (s : State) (input : UInt32) : State :=
  let sigma1 := rotate s.e 6 ^^^ rotate s.e 11 ^^^ rotate s.e 25
  let choose := (s.e &&& s.f) ^^^ (~~~s.e &&& s.g)
  let t := s.h + sigma1 + choose + input
  let sigma0 := rotate s.a 2 ^^^ rotate s.a 13 ^^^ rotate s.a 22
  let majority := (s.a &&& s.b) ^^^ (s.a &&& s.c) ^^^ (s.b &&& s.c)
  ⟨t + sigma0 + majority, s.a, s.b, s.c, s.d + t, s.e, s.f, s.g⟩

/-- The next word of the schedule, from those before it. -/
def nextWord (ws : Array UInt32) : UInt32 :=
  let back n := ws.getD (ws.size - n) 0
  let x := back 15
  let y := back 2
  let sigma0 := rotate x 7 ^^^ rotate x 18 ^^^ (x >>> 3)
  let sigma1 := rotate y 17 ^^^ rotate y 19 ^^^ (y >>> 10)
  back 16 + sigma0 + back 7 + sigma1

/-- Extends a schedule by `n` words. -/
def extend (ws : Array UInt32) : Nat → Array UInt32
  | 0 => ws
  | n + 1 => extend (ws.push (nextWord ws)) n

/-- The words of a block, most significant byte first. -/
def words : List UInt8 → List UInt32
  | a :: b :: c :: d :: rest =>
    (a.toUInt32 <<< 24 ||| b.toUInt32 <<< 16 ||| c.toUInt32 <<< 8 ||| d.toUInt32) :: words rest
  | _ => []

/-- Mixes a block into the state. -/
def compress (s : State) (block : List UInt8) : State :=
  let schedule := (extend (words block).toArray 48).toList
  let t := (roundConstants.zipWith (· + ·) schedule).foldl round s
  ⟨s.a + t.a, s.b + t.b, s.c + t.c, s.d + t.d, s.e + t.e, s.f + t.f, s.g + t.g, s.h + t.h⟩

/-- The `n` least significant bytes of a number, most significant first. -/
def bigEndian (n : Nat) (x : Nat) : List UInt8 :=
  (List.range n).reverse.map fun k => (x / Nat.pow 256 k).toUInt8

/-- The message followed by a one bit, zeros and its length in bits, in whole blocks. -/
def pad (message : List UInt8) : List UInt8 :=
  let zeros := (119 - message.length % 64) % 64
  message ++ 0x80 :: List.replicate zeros 0 ++ bigEndian 8 (8 * message.length)

/-- Mixes `n` blocks of a message into the state. -/
def absorb (s : State) (message : List UInt8) : (n : Nat) → State
  | 0 => s
  | n + 1 => absorb (compress s (message.take 64)) (message.drop 64) n

/-- The digest of a message, 32 bytes. -/
def digest (message : List UInt8) : List UInt8 :=
  let padded := pad message
  let s := absorb initial padded (padded.length / 64)
  [s.a, s.b, s.c, s.d, s.e, s.f, s.g, s.h].flatMap fun w => bigEndian 4 w.toNat

/-- A digit of the hexadecimal notation of a digest. -/
def hexChar (n : UInt8) : Char :=
  if n < 10 then Char.ofNat (48 + n.toNat) else Char.ofNat (87 + n.toNat)

/-- Bytes in hexadecimal notation. -/
def hex (bytes : List UInt8) : List Char :=
  bytes.flatMap fun (b : UInt8) => [hexChar (b >>> 4), hexChar (b &&& 15)]

/-- The digest of a message in hexadecimal notation. -/
def hexDigest (message : List UInt8) : String :=
  String.ofList (hex (digest message))

end PlatformAudit.Sha256
