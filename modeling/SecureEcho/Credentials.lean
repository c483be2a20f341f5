import SecureEcho.Basic
import SecureEcho.Event
import SecureEcho.Pem
import SecureEcho.Settings.Basic

namespace SecureEcho

-- What loading relies on to take files and certificates apart: `Root` is a certificate that is trusted
-- by itself, a `Verifier` checks clients by such roots, and a `Key` signs for the server.
structure Tools (Root Verifier Key Fault : Type) where
  sections : Bytes → List Pem.Section × Option IoError
  root : Bytes → Except Fault Root
  verifier : List Root → Except Fault Verifier
  -- The server's key, if it is in order and goes with the chain.
  key : Option Verifier → List Bytes → KeyForm × Bytes → Except Fault Key
  subject : Root → Bytes
  hints : Verifier → List Bytes

inductive CredentialsError (Fault : Type) where
  | unreadable (path : String) (cause : IoError)
  | noCertificates (path : String)
  | noPrivateKey (path : String)
  | unverifiable (cause : Fault)
  | refused (cause : Fault)
deriving DecidableEq, Repr

namespace CredentialsError

def readFailure (path : String) : String := s!"Failed to read '{path}'"

def setupFailure : String := "TLS configuration failed"

def message {Fault : Type} [ToString Fault] : CredentialsError Fault → String
  | .unreadable path cause => s!"{readFailure path}: {cause.message}"
  | .noCertificates path => s!"No certificates found in '{path}'"
  | .noPrivateKey path => s!"No private key found in '{path}'"
  | .unverifiable cause => s!"Client verifier setup failed: {cause}"
  | .refused cause => s!"{setupFailure}: {cause}"

end CredentialsError

structure Material (Root : Type) where
  roots : List Root
  chain : List Bytes
  key : KeyForm × Bytes
deriving DecidableEq, Repr

structure Credentials (Verifier Key : Type) where
  chain : List Bytes
  key : Key
  verifier : Option Verifier
deriving DecidableEq, Repr

abbrev Loaded (Fault : Type) := Except (CredentialsError Fault)

namespace Material

def keyOf? (pem : Pem.Section) : Option (KeyForm × Bytes) :=
  (KeyForm.ofLabel? pem.label).map fun form => (form, pem.contents)

def report {Root : Type} (material : Material Root) (verifyClient : Bool) : Event :=
  .materialLoaded material.roots.length material.chain.length verifyClient

variable {Root Verifier Key Fault : Type} (tools : Tools Root Verifier Key Fault)

def readSections (files : Files) (path : String) :
    Loaded Fault (List Pem.Section × Option IoError) :=
  (tools.sections <$> files path).mapError (.unreadable path)

-- All certificates of a file, in order. A fault anywhere in the file counts.
def readCertificates (files : Files) (path : String) : Loaded Fault (List Bytes) := do
  let (sections, fault) ← readSections tools files path
  if let some cause := fault then throw (.unreadable path cause)
  let found := sections.filter fun pem => pem.label = .certificate
  if found.isEmpty then throw (.noCertificates path)
  return found.map Pem.Section.contents

def readRoots (files : Files) (path : String) : Loaded Fault (List Root) := do
  (← readCertificates tools files path).mapM fun encoded => (tools.root encoded).mapError .refused

-- The first private key of a file. A fault counts only if no key comes before it.
def readPrivateKey (files : Files) (path : String) : Loaded Fault (KeyForm × Bytes) := do
  let (sections, fault) ← readSections tools files path
  match sections.findSome? keyOf?, fault with
  | some key, _ => return key
  | none, some cause => throw (.unreadable path cause)
  | none, none => throw (.noPrivateKey path)

def load (settings : TlsSettings) (files : Files) : Loaded Fault (Material Root) := do
  let roots ← readRoots tools files settings.caFile
  let chain ← readCertificates tools files settings.certFile
  let key ← readPrivateKey tools files settings.keyFile
  return { roots, chain, key }

def verifier (material : Material Root) (verifyClient : Bool) : Loaded Fault (Option Verifier) :=
  if verifyClient then some <$> (tools.verifier material.roots).mapError .unverifiable
  else return none

def toCredentials (material : Material Root) (verifyClient : Bool) :
    Loaded Fault (Credentials Verifier Key) := do
  let verifier ← material.verifier tools verifyClient
  let key ← (tools.key verifier material.chain material.key).mapError .refused
  return { chain := material.chain, key, verifier }

end Material

namespace Credentials

variable {Root Verifier Key Fault : Type} (tools : Tools Root Verifier Key Fault)

def hints (credentials : Credentials Verifier Key) : List Bytes :=
  (credentials.verifier.map tools.hints).getD []

-- Loads the files that the settings name, and reports once all of them are read.
def load (settings : TlsSettings) (files : Files) : List Event × Loaded Fault (Credentials Verifier Key) :=
  match Material.load tools settings files with
  | .error error => ([], .error error)
  | .ok material =>
    ([material.report settings.verifyClient], material.toCredentials tools settings.verifyClient)

end Credentials

end SecureEcho
