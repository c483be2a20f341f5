import SecureEcho.Basic

namespace SecureEcho.Sha512

def isPrime (n : Nat) : Bool := 2 ≤ n && (List.range n).all fun d => d < 2 || n % d != 0

def primes : List Nat := (List.range 410).filter isPrime

def root (power value : Nat) : (bits known : Nat) → Nat
  | 0, known => known
  | bits + 1, known =>
    let raised := known + Nat.pow 2 bits
    root power value bits (if Nat.pow raised power ≤ value then raised else known)

def rootFraction (power n : Nat) : UInt64 := UInt64.ofNat (root power (n * Nat.pow 2 (64 * power)) 73 0)

def roundConstants : List UInt64 := primes.map (rootFraction 3)

structure Words where
  a : UInt64
  b : UInt64
  c : UInt64
  d : UInt64
  e : UInt64
  f : UInt64
  g : UInt64
  h : UInt64
deriving DecidableEq, Repr

namespace Words

def add (one two : Words) : Words :=
  ⟨one.a + two.a, one.b + two.b, one.c + two.c, one.d + two.d,
    one.e + two.e, one.f + two.f, one.g + two.g, one.h + two.h⟩

def toList (words : Words) : List UInt64 :=
  [words.a, words.b, words.c, words.d, words.e, words.f, words.g, words.h]

end Words

def initial : Words :=
  let word (prime : Nat) := rootFraction 2 prime
  ⟨word 2, word 3, word 5, word 7, word 11, word 13, word 17, word 19⟩

def rotate (word : UInt64) (count : UInt64) : UInt64 := word >>> count ||| word <<< (64 - count)

def wordOf (bytes : Bytes) : UInt64 := bytes.foldl (fun word byte => word <<< 8 ||| byte.toUInt64) 0

def bytesOf (word : UInt64) : Bytes :=
  (List.range 8).map fun place => (word >>> UInt64.ofNat (56 - 8 * place)).toUInt8

-- The message with a one bit, zeros and its length in bits after it, to a whole number of blocks.
def pad (message : Bytes) : Bytes :=
  let zeros := (239 - message.length % 128) % 128
  message ++ 0x80 :: List.replicate (zeros + 8) 0 ++ bytesOf (UInt64.ofNat (8 * message.length))

def extend (words : List UInt64) : List UInt64 :=
  let word (back : Nat) := words.getD (back - 1) 0
  let near := rotate (word 2) 19 ^^^ rotate (word 2) 61 ^^^ word 2 >>> 6
  let far := rotate (word 15) 1 ^^^ rotate (word 15) 8 ^^^ word 15 >>> 7
  (near + word 7 + far + word 16) :: words

def schedule (block : Bytes) : List UInt64 :=
  let given := (List.range 16).map fun place => wordOf (Bytes.slice block (8 * place) 8)
  ((List.range 64).foldl (fun words _ => extend words) given.reverse).reverse

def round (words : Words) (input : UInt64) : Words :=
  let ⟨a, b, c, d, e, f, g, h⟩ := words
  let choice := (e &&& f) ^^^ (~~~e &&& g)
  let majority := (a &&& b) ^^^ (a &&& c) ^^^ (b &&& c)
  let one := h + (rotate e 14 ^^^ rotate e 18 ^^^ rotate e 41) + choice + input
  let two := (rotate a 28 ^^^ rotate a 34 ^^^ rotate a 39) + majority
  ⟨one + two, a, b, c, d + one, e, f, g⟩

def absorb (words : Words) (block : Bytes) : Words :=
  words.add ((schedule block).zipWith (· + ·) roundConstants |>.foldl round words)

def digest (message : Bytes) : Bytes :=
  let padded := pad message
  let blocks := (List.range (padded.length / 128)).map fun place => Bytes.slice padded (128 * place) 128
  (blocks.foldl absorb initial).toList.flatMap bytesOf

end SecureEcho.Sha512
