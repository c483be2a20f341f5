import SecureEcho.Der.Basic

namespace SecureEcho

inductive CertificateFault where
  | badEncoding
  | unsupportedVersion
  | signatureAlgorithmMismatch
  | unsupportedCriticalExtension
  | repeatedExtension
deriving DecidableEq, Repr

def CertificateFault.describe : CertificateFault → String
  | .badEncoding => "BadEncoding"
  | .unsupportedVersion => "Other(OtherError(UnsupportedCertVersion))"
  | .signatureAlgorithmMismatch => "Other(OtherError(SignatureAlgorithmMismatch))"
  | .unsupportedCriticalExtension => "Other(OtherError(UnsupportedCriticalExtension))"
  | .repeatedExtension => "Other(OtherError(ExtensionValueInvalid))"

structure Certificate where
  subject : Bytes
  publicKeyInfo : Bytes
deriving DecidableEq, Repr

namespace Certificate

open Der

abbrev Checked := Except CertificateFault

def decoded {α : Type} (result : Option α) : Checked α :=
  match result with
  | some value => .ok value
  | none => .error .badEncoding

def envelope : Reader (Bytes × Bytes) :=
  .within Tag.sequence do
    let signed ← .value Tag.sequence
    let algorithm ← .value Tag.sequence
    discard (.bits Tag.bitString)
    return (signed, algorithm)

def thirdVersion : Nat := 2

def version : Reader Unit :=
  .within (Tag.field 0) do if (← .small) = thirdVersion then return () else failure

structure Extension where
  id : Bytes
  critical : Bool
  value : Bytes
deriving DecidableEq, Repr

def extension : Reader Extension := do
  let id ← .value Tag.objectId
  let critical ← if ← .isNext Tag.boolean then do
      match ← .value Tag.boolean with
      | [0xff] => pure true
      | [0x00] => pure false
      | _ => failure
    else pure false
  return { id, critical, value := ← .value Tag.octetString }

inductive KnownForm where
  | bits
  | list
deriving DecidableEq, Repr

-- The last part of the names of the known extensions; all begin alike.
def knownForm? (id : Bytes) : Option KnownForm :=
  match id with
  | [0x55, 0x1d, 15] => some .bits
  | [0x55, 0x1d, 17] | [0x55, 0x1d, 19] | [0x55, 0x1d, 30] | [0x55, 0x1d, 31] | [0x55, 0x1d, 37] =>
    some .list
  | _ => none

def checkExtension (trusted : Bool) (before : List Bytes) (extension : Extension) :
    Checked (List Bytes) :=
  match knownForm? extension.id with
  | none =>
    if extension.critical && !trusted then .error .unsupportedCriticalExtension else .ok before
  | some form =>
    if before.contains extension.id then .error .repeatedExtension
    else do
      if form = .list then
        discard (decoded (readAll extension.value (.value Tag.sequence)))
      return extension.id :: before

-- Checks each extension as soon as it is read, so that a fault in one comes before a fault in how those
-- behind it are written. There is at least one, and each takes at least one byte of the budget.
def checkEach (trusted : Bool) : (budget : Bytes) → List Bytes → Bytes → Checked Unit
  | [], _, _ => .error .badEncoding
  | _ :: budget, before, bytes => do
    let (contents, later) ← decoded ((Reader.value Tag.sequence).run bytes)
    let (extension, excess) ← decoded (extension.run contents)
    let before ← checkExtension trusted before extension
    if !excess.isEmpty then throw .badEncoding
    if later.isEmpty then return () else checkEach trusted budget before later

def checkExtensions (trusted : Bool) (bytes : Bytes) : Checked Unit := do
  if bytes.isEmpty then return ()
  let (field, behind) ← decoded ((Reader.value (Tag.field 3)).run bytes)
  let (list, excess) ← decoded ((Reader.value Tag.sequence).run field)
  checkEach trusted list [] list
  if !excess.isEmpty || !behind.isEmpty then throw .badEncoding

def fields : Reader Certificate := do
  discard (.value Tag.integer)
  discard (.value Tag.sequence)
  discard (.value Tag.sequence)
  discard (.value Tag.sequence)
  return { subject := ← .value Tag.sequence, publicKeyInfo := ← .value Tag.sequence }

def parseThird (trusted : Bool) (encoded : Bytes) : Checked Certificate := do
  let (signed, algorithm) ← decoded (readAll encoded envelope)
  let rest ← match version.run signed with
    | some (_, rest) => pure rest
    | none => throw .unsupportedVersion
  -- The algorithm is compared before what follows it is read.
  let outer ← decoded ((do discard (.value Tag.integer); .value Tag.sequence : Reader Bytes).run' rest)
  if outer ≠ algorithm then throw .signatureAlgorithmMismatch
  let (certificate, rest) ← decoded (fields.run rest)
  checkExtensions trusted rest
  return certificate

def parseFirst? (encoded : Bytes) : Option Certificate :=
  readAll encoded (.within Tag.sequence do
    let certificate ← .within Tag.sequence fields
    discard (.value Tag.sequence)
    discard (.value Tag.bitString)
    return certificate)

def parse (encoded : Bytes) : Checked Certificate := parseThird false encoded

def parseTrusted (encoded : Bytes) : Checked Certificate :=
  match parseThird true encoded with
  | .error .unsupportedVersion => decoded (parseFirst? encoded)
  | outcome => outcome

end Certificate

end SecureEcho
