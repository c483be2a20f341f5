import SecureEcho.Curve
import SecureEcho.Pem

namespace SecureEcho

inductive KeyKind where
  | rsa
  | ecdsa
  | ed25519
deriving DecidableEq, Repr

structure PrivateKey where
  kind : KeyKind
  -- The contents of the public key and its algorithm, as a certificate holds them.
  publicKeyInfo : Bytes
deriving DecidableEq, Repr

namespace PrivateKey

open Der

def rsaAlgorithm : Bytes := wrap Tag.objectId [0x2a, 0x86, 0x48, 0x86, 0xf7, 0x0d, 1, 1, 1] ++ [Tag.null, 0]
def ed25519Algorithm : Bytes := wrap Tag.objectId [0x2b, 101, 112]

def curveName (id : Bytes) : Bytes := wrap Tag.objectId id

def curveAlgorithm (id : Bytes) : Bytes :=
  wrap Tag.objectId [0x2a, 0x86, 0x48, 0xce, 0x3d, 2, 1] ++ curveName id

def keyInfo (algorithm publicKey : Bytes) : Bytes :=
  wrap Tag.sequence algorithm ++ wrapBits publicKey

structure Envelope where
  contents : Bytes
  publicKey : Option Bytes
deriving DecidableEq, Repr

-- The public key in a field of its own, or in the way in which it was written by mistake once.
def attachedPublicKey : Reader Bytes := do
  if ← .isNext (Tag.field 1) then .within (Tag.field 1) (.bits Tag.bitString)
  else .bits (Tag.bare 1)

-- The general form, for one algorithm, up to a greatest version. What else it holds is ignored.
def envelope (algorithm : Bytes) (greatestVersion : Nat) : Reader Envelope :=
  .within Tag.sequence do
    let version ← .small
    let found ← .value Tag.sequence
    if found ≠ algorithm || greatestVersion < version then failure
    let contents ← .value Tag.octetString
    if ← .isNext (Tag.field 0) then discard (.value (Tag.field 0))
    let publicKey ← if version = 1 then some <$> attachedPublicKey else pure none
    return { contents, publicKey }

def bitLength (value : Nat) : Nat := if value = 0 then 0 else value.log2 + 1

def isOdd (value : Nat) : Bool := value % 2 = 1

structure Factors where
  modulus : Nat
  publicExponent : Nat
  privateExponent : Nat
  one : Nat
  two : Nat
  exponentOne : Nat
  exponentTwo : Nat
  inverse : Nat
deriving DecidableEq, Repr

namespace Factors

def isPublicPart (key : Factors) : Bool :=
  isOdd key.modulus && 2048 ≤ (bitLength key.modulus + 7) / 8 * 8 && bitLength key.modulus ≤ 4096 &&
    isOdd key.publicExponent && 65537 ≤ key.publicExponent && key.publicExponent < 0x200000000

-- A factor of half the bits, which make whole blocks.
def isFactor (key : Factors) (factor : Nat) : Bool :=
  isOdd factor && bitLength factor = (bitLength key.modulus + 1) / 2 && bitLength factor % 512 = 0

-- Everything that is checked; whether the exponents fit each other is not.
def isConsistent (key : Factors) : Bool :=
  key.isPublicPart && key.isFactor key.one && key.isFactor key.two &&
    key.one * key.two = key.modulus &&
    isOdd key.privateExponent && key.privateExponent < key.modulus &&
    (bitLength key.modulus + 1) / 2 < bitLength key.privateExponent &&
    isOdd key.exponentOne && key.exponentOne < key.one &&
    isOdd key.exponentTwo && key.exponentTwo < key.two &&
    key.inverse < key.one && key.inverse * key.two % key.one = 1

end Factors

def factors : Reader (Factors × Bytes) :=
  .within Tag.sequence do
    if (← .small) ≠ 0 then failure
    let modulus ← .natural
    let exponent ← .natural
    let rest ← (List.range 6).mapM fun _ => numberOf <$> .natural
    match rest with
    | [privateExponent, one, two, exponentOne, exponentTwo, inverse] =>
      let key :=
        { modulus := numberOf modulus, publicExponent := numberOf exponent, privateExponent, one, two,
          exponentOne, exponentTwo, inverse }
      return (key, wrap Tag.sequence (wrapNatural modulus ++ wrapNatural exponent))
    | _ => failure

def rsa? (encoded : Bytes) : Option PrivateKey := do
  let (key, publicKey) ← readAll encoded factors
  if key.isConsistent then some ⟨.rsa, keyInfo rsaAlgorithm publicKey⟩ else none

structure NamedCurve where
  id : Bytes
  curve : Weierstrass.Curve
deriving DecidableEq, Repr

def p256 : NamedCurve := ⟨[0x2a, 0x86, 0x48, 0xce, 0x3d, 3, 1, 7], Weierstrass.p256⟩
def p384 : NamedCurve := ⟨[0x2b, 0x81, 4, 0, 34], Weierstrass.p384⟩

def numberAndPoint (named : NamedCurve) : Reader (Bytes × Bytes) :=
  .within Tag.sequence do
    if (← .small) ≠ 1 then failure
    let number ← .value Tag.octetString
    if ← .isNext (Tag.field 0) then
      if (← .value (Tag.field 0)) ≠ curveName named.id then failure
    return (number, ← .within (Tag.field 1) (.bits Tag.bitString))

def onCurve? (named : NamedCurve) (encoded : Bytes) : Option PrivateKey := do
  let (number, point) ← readAll encoded (numberAndPoint named)
  let publicPoint ← named.curve.publicPoint? number
  if point = publicPoint then some ⟨.ecdsa, keyInfo (curveAlgorithm named.id) point⟩ else none

def ed25519? (key : Envelope) : Option PrivateKey := do
  let seed ← readAll key.contents (.value Tag.octetString)
  if seed.length ≠ 32 then none
  let publicKey := Edwards.publicKey seed
  if key.publicKey.all (· = publicKey) then
    some ⟨.ed25519, keyInfo ed25519Algorithm publicKey⟩
  else none

def parse? (form : KeyForm) (encoded : Bytes) : Option PrivateKey :=
  let general (algorithm : Bytes) : Option Bytes :=
    Envelope.contents <$> readAll encoded (envelope algorithm 0)
  match form with
  | .factors => rsa? encoded
  | .curve => onCurve? p256 encoded <|> onCurve? p384 encoded
  | .general =>
    (do rsa? (← general rsaAlgorithm)) <|>
    (do onCurve? p256 (← general (curveAlgorithm p256.id))) <|>
    (do onCurve? p384 (← general (curveAlgorithm p384.id))) <|>
    (do ed25519? (← readAll encoded (envelope ed25519Algorithm 1)))

end PrivateKey

end SecureEcho
