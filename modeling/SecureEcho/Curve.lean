import SecureEcho.Der.Basic
import SecureEcho.Digest.Sha512

namespace SecureEcho.Modular

def power (modulus base : Int) (exponent : Nat) : Int :=
  if exponent = 0 then 1 % modulus
  else
    let half := power modulus base (exponent / 2)
    let square := half * half % modulus
    if exponent % 2 = 0 then square else square * base % modulus
termination_by exponent

-- The inverse of a number that a prime does not divide; of a multiple of it, zero.
def inverse (prime : Nat) (value : Int) : Int := power prime (value % prime) (prime - 2)

end SecureEcho.Modular

namespace SecureEcho.Edwards

def prime : Nat := Nat.pow 2 255 - 19

def coefficient : Int := -121665 * Modular.inverse prime 121666 % prime

-- A point by three coordinates, of which only the ratios count; the third is never zero.
structure Point where
  x : Int
  y : Int
  z : Int
deriving DecidableEq, Repr

def neutral : Point := ⟨0, 1, 1⟩

def base : Point where
  x := 15112221349535400772501151409588531511454012693041857206046113283949847762202
  y := 46316835694926478169428394003475163141307993866256225615783033603165251855960
  z := 1

def add (one two : Point) : Point :=
  let scale := one.z * two.z % prime
  let square := scale * scale % prime
  let across := one.x * two.x % prime
  let up := one.y * two.y % prime
  let bend := coefficient * across * up % prime
  let mixed := (one.x + one.y) * (two.x + two.y) - across - up
  { x := scale * (square - bend) * mixed % prime
    y := scale * (square + bend) * (up + across) % prime
    z := (square - bend) * (square + bend) % prime }

def multiply (count : Nat) (point : Point) : Point :=
  if count = 0 then neutral
  else
    let half := multiply (count / 2) point
    let twice := add half half
    if count % 2 = 0 then twice else add twice point
termination_by count

def numberOf (bytes : Bytes) : Nat := bytes.foldr (fun byte value => byte.toNat + 256 * value) 0

def bytesOf (value : Nat) : Bytes := (List.range 32).map fun place => UInt8.ofNat (value / Nat.pow 256 place)

def encode (point : Point) : Bytes :=
  let scale := Modular.inverse prime point.z
  let x := (point.x * scale % prime).toNat
  let y := (point.y * scale % prime).toNat
  bytesOf (y + x % 2 * Nat.pow 2 255)

-- The number between 2²⁵⁴ and 2²⁵⁵, a multiple of eight, that half a seed's digest makes.
def secretNumber (seed : Bytes) : Nat :=
  let number := numberOf ((Sha512.digest seed).take 32)
  Nat.pow 2 254 + number % Nat.pow 2 254 / 8 * 8

def publicKey (seed : Bytes) : Bytes := encode (multiply (secretNumber seed) base)

end SecureEcho.Edwards

namespace SecureEcho.Weierstrass

structure Curve where
  prime : Nat
  order : Nat
  baseX : Int
  baseY : Int
  width : Nat
deriving DecidableEq, Repr

structure Point where
  x : Int
  y : Int
  z : Int
deriving DecidableEq, Repr

def infinity : Point := ⟨0, 1, 0⟩

namespace Curve

def base (curve : Curve) : Point := ⟨curve.baseX, curve.baseY, 1⟩

def reduce (curve : Curve) (x y z : Int) : Point := ⟨x % curve.prime, y % curve.prime, z % curve.prime⟩

def double (curve : Curve) (point : Point) : Point :=
  let ⟨x, y, z⟩ := point
  let slope := 3 * (x * x - z * z) % curve.prime
  let side := y * z % curve.prime
  let area := x * y * side % curve.prime
  let height := (slope * slope - 8 * area) % curve.prime
  curve.reduce (2 * height * side) (slope * (4 * area - height) - 8 * y * y * side * side)
    (8 * side * side * side)

def add (curve : Curve) (one two : Point) : Point :=
  if one.z = 0 then two
  else if two.z = 0 then one
  else
    let rise := (two.y * one.z - one.y * two.z) % curve.prime
    let run := (two.x * one.z - one.x * two.z) % curve.prime
    if run = 0 then if rise = 0 then curve.double one else infinity
    else
      let square := run * run % curve.prime
      let cube := square * run % curve.prime
      let scale := one.z * two.z % curve.prime
      let anchor := square * one.x * two.z % curve.prime
      let height := (rise * rise * scale - cube - 2 * anchor) % curve.prime
      curve.reduce (run * height) (rise * (anchor - height) - cube * one.y * two.z) (cube * scale)

def multiply (curve : Curve) (count : Nat) (point : Point) : Point :=
  if count = 0 then infinity
  else
    let twice := curve.double (curve.multiply (count / 2) point)
    if count % 2 = 0 then twice else curve.add twice point
termination_by count

def encode (curve : Curve) (point : Point) : Bytes :=
  let scale := Modular.inverse curve.prime point.z
  let coordinate (value : Int) := Der.bytesOf curve.width (value * scale % curve.prime).toNat
  4 :: coordinate point.x ++ coordinate point.y

-- The public point that belongs to a private number, if that lies between zero and the order.
def publicPoint? (curve : Curve) (number : Bytes) : Option Bytes :=
  let count := Der.numberOf number
  if number.length = curve.width && 0 < count && count < curve.order then
    some (curve.encode (curve.multiply count curve.base))
  else none

end Curve

def p256 : Curve where
  prime := 0xffffffff00000001000000000000000000000000ffffffffffffffffffffffff
  order := 0xffffffff00000000ffffffffffffffffbce6faada7179e84f3b9cac2fc632551
  baseX := 0x6b17d1f2e12c4247f8bce6e563a440f277037d812deb33a0f4a13945d898c296
  baseY := 0x4fe342e2fe1a7f9b8ee7eb4a7c0f9e162bce33576b315ececbb6406837bf51f5
  width := 32

def p384 : Curve where
  prime :=
    0xfffffffffffffffffffffffffffffffffffffffffffffffffffffffffffffffeffffffff0000000000000000ffffffff
  order :=
    0xffffffffffffffffffffffffffffffffffffffffffffffffc7634d81f4372ddf581a0db248b0a77aecec196accc52973
  baseX :=
    0xaa87ca22be8b05378eb1c71ef320ad746e1d3b628ba79b9859f741e082542a385502f25dbf55296c3a545e3872760ab7
  baseY :=
    0x3617de4a96262c6f5d9e98bf9292dc29f8f41dbd289a147ce9da3113b5f0b8c00a60b1ce1d7e819d7a431d7c90ea0e5f
  width := 48

end SecureEcho.Weierstrass
