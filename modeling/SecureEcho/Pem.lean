import SecureEcho.Basic
import SecureEcho.Text

namespace SecureEcho.Base64

inductive Fault where
  | invalidCharacter (byte : UInt8)
  | prematurePadding
  | invalidTrailingPadding
deriving DecidableEq, Repr

def Fault.describe : Fault → String
  | .invalidCharacter byte => s!"InvalidCharacter({byte.toNat})"
  | .prematurePadding => "PrematurePadding"
  | .invalidTrailingPadding => "InvalidTrailingPadding"

def isSpace (byte : UInt8) : Bool := byte == 32 || (9 ≤ byte && byte ≤ 13)

def padding : UInt8 := 61

def value? (byte : UInt8) : Option Nat :=
  if 65 ≤ byte && byte ≤ 90 then some (byte.toNat - 65)
  else if 97 ≤ byte && byte ≤ 122 then some (byte.toNat - 97 + 26)
  else if 48 ≤ byte && byte ≤ 57 then some (byte.toNat - 48 + 52)
  else if byte == 43 then some 62
  else if byte == 47 then some 63
  else none

-- Four letters make three bytes, and fewer make as many whole bytes as they hold.
def bytesOf : List Nat → Bytes
  | a :: b :: c :: d :: rest =>
    let word := ((a * 64 + b) * 64 + c) * 64 + d
    UInt8.ofNat (word / 65536) :: UInt8.ofNat (word / 256) :: UInt8.ofNat word :: bytesOf rest
  | [a, b, c] =>
    let word := (a * 64 + b) * 64 + c
    [UInt8.ofNat (word / 1024), UInt8.ofNat (word / 4)]
  | [a, b] => [UInt8.ofNat ((a * 64 + b) / 16)]
  | _ => []

def decode (text : Bytes) : Except Fault Bytes := do
  let text := text.filter fun byte => !isSpace byte
  if let some byte := text.find? fun byte => byte != padding && (value? byte).isNone then
    throw (.invalidCharacter byte)
  let letters := text.takeWhile (· != padding)
  let fill := text.drop letters.length
  if fill.any (· != padding) then throw .prematurePadding
  let complete := (letters.length + fill.length) % 4 == 0 && fill.length ≤ 2
  if letters.length % 4 == 1 || (!fill.isEmpty && !complete) then throw .invalidTrailingPadding
  return bytesOf (letters.filterMap value?)

end SecureEcho.Base64

namespace SecureEcho

namespace Pem

inductive Label where
  | certificate
  | publicKey
  | rsaPrivateKey
  | privateKey
  | ecPrivateKey
  | revocationList
  | certificateRequest
  | helloConfiguration
deriving DecidableEq, Repr

namespace Label

def all : List Label :=
  [.certificate, .publicKey, .rsaPrivateKey, .privateKey, .ecPrivateKey, .revocationList,
    .certificateRequest, .helloConfiguration]

def name : Label → String
  | .certificate => "CERTIFICATE"
  | .publicKey => "PUBLIC KEY"
  | .rsaPrivateKey => "RSA PRIVATE KEY"
  | .privateKey => "PRIVATE KEY"
  | .ecPrivateKey => "EC PRIVATE KEY"
  | .revocationList => "X509 CRL"
  | .certificateRequest => "CERTIFICATE REQUEST"
  | .helloConfiguration => "ECHCONFIG"

def ofName? (name : Bytes) : Option Label := all.find? fun label => label.name.toUTF8.toList == name

end Label

structure Section where
  label : Label
  contents : Bytes
deriving DecidableEq, Repr

inductive Fault where
  | unclosed (label : Bytes)
  | illegalStart (line : Bytes)
  | undecodable (cause : Base64.Fault)
deriving DecidableEq, Repr

def shownText (bytes : Bytes) : String :=
  (String.fromUTF8? (ByteArray.mk bytes.toArray)).getD
    (String.ofList (bytes.map fun byte => if byte < 128 then Char.ofNat byte.toNat else '\ufffd'))

def Fault.message : Fault → String
  | .unclosed label => s!"section end {Text.quoted (shownText label)} missing"
  | .illegalStart line => s!"illegal section start: {Text.quoted (shownText line)}"
  | .undecodable cause => cause.describe

def beginMark : Bytes := "-----BEGIN ".toUTF8.toList
def endMark : Bytes := "-----END ".toUTF8.toList
def dashes : Bytes := "-----".toUTF8.toList

def dash : UInt8 := 45

-- Ends of lines, and the blank that may stand before them.
def isTrailing (byte : UInt8) : Bool := byte == 10 || byte == 13 || byte == 32

def lines : Bytes → List Bytes
  | [] => []
  | byte :: rest =>
    if byte == 10 || byte == 13 then [byte] :: lines rest
    else
      match lines rest with
      | [] => [[byte]]
      | line :: later => (byte :: line) :: later

-- The label on a line that begins a section: what is left before five dashes at its end. Blanks
-- between and after the dashes do not count.
def startLabel? (line : Bytes) : Option Bytes :=
  let tail := line.reverse.takeWhile fun byte => byte == dash || isTrailing byte
  if tail.count dash = 5 then
    -- The label ends where the leftmost of the dashes stands.
    let kept := tail.reverse.takeWhile (· != dash)
    some (line.take (line.length - tail.length + kept.length) |>.drop beginMark.length)
  else none

def isEnd (label line : Bytes) : Bool := (endMark ++ label ++ dashes).isPrefixOf line

structure Progress where
  label : Option Bytes := none
  gathered : Bytes := []
deriving DecidableEq, Repr

def readLines (progress : Progress) : List Bytes → List Section × Option Fault
  | [] => ([], progress.label.map .unclosed)
  | line :: later =>
    if beginMark.isPrefixOf line then
      match startLabel? line with
      | none => ([], some (.illegalStart line))
      | some label => readLines { progress with label := some label } later
    else
      match progress.label with
      | none => readLines progress later
      | some label =>
        if !isEnd label line then
          readLines { progress with gathered := progress.gathered ++ line } later
        else
          match Label.ofName? label with
          | none => readLines {} later
          | some known =>
            match Base64.decode progress.gathered with
            | .error cause => ([], some (.undecodable cause))
            | .ok contents =>
              let (sections, fault) := readLines {} later
              (⟨known, contents⟩ :: sections, fault)

def read (file : Bytes) : List Section × Option Fault := readLines {} (lines file)

end Pem

inductive KeyForm where
  -- For factors of a modulus alone.
  | factors
  -- For points of a curve alone.
  | curve
  | general
deriving DecidableEq, Repr

def KeyForm.ofLabel? : Pem.Label → Option KeyForm
  | .rsaPrivateKey => some .factors
  | .ecPrivateKey => some .curve
  | .privateKey => some .general
  | _ => none

end SecureEcho
