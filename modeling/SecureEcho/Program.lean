import SecureEcho.Certificate
import SecureEcho.CommandLine.Basic
import SecureEcho.Credentials
import SecureEcho.Event.Filter
import SecureEcho.EventLoop
import SecureEcho.PrivateKey
import SecureEcho.Settings.Document
import SecureEcho.Toml.Document

namespace SecureEcho

inductive IdentityFault where
  | certificate (cause : CertificateFault)
  | keyUnusable
  | keyMismatch
  | noRoots
deriving DecidableEq, Repr

def IdentityFault.describe : IdentityFault → String
  | .certificate cause => s!"invalid peer certificate: {cause.describe}"
  | .keyUnusable => "unexpected error: failed to parse private key as RSA, ECDSA, or EdDSA"
  | .keyMismatch => "keys may not be consistent: KeyMismatch"
  | .noRoots => "no root trust anchors were provided"

instance : ToString IdentityFault := ⟨IdentityFault.describe⟩

structure ClientVerifier where
  roots : List Certificate
deriving DecidableEq, Repr

namespace ProgramTools

def sections (contents : Bytes) : List Pem.Section × Option IoError :=
  let (sections, fault) := Pem.read contents
  (sections, fault.map fun cause => ⟨.invalidData, cause.message⟩)

def verifier (roots : List Certificate) : Except IdentityFault ClientVerifier :=
  if roots.isEmpty then .error .noRoots else .ok { roots }

-- The key, if the chain begins with its certificate. The rest of the chain is not looked at.
def key (chain : List Bytes) (encoded : KeyForm × Bytes) : Except IdentityFault PrivateKey := do
  let some key := PrivateKey.parse? encoded.1 encoded.2 | throw .keyUnusable
  let own ← (Certificate.parse (chain.headD [])).mapError .certificate
  if own.publicKeyInfo = key.publicKeyInfo then return key else throw .keyMismatch

def subject (root : Certificate) : Bytes := Der.wrap Der.Tag.sequence root.subject

end ProgramTools

def programTools : Tools Certificate ClientVerifier PrivateKey IdentityFault where
  sections := ProgramTools.sections
  root encoded := (Certificate.parseTrusted encoded).mapError .certificate
  verifier := ProgramTools.verifier
  key _ := ProgramTools.key
  subject := ProgramTools.subject
  hints verifier := verifier.roots.map ProgramTools.subject

inductive StartError where
  | usage (cause : UsageError)
  | settings (cause : ConfigError)
  | credentials (cause : CredentialsError IdentityFault)
  | listening (cause : IoError)
deriving DecidableEq, Repr

def StartError.message : StartError → String
  | .usage cause => cause.message
  | .settings cause => cause.message
  | .credentials cause => cause.message
  | .listening cause => cause.message

structure ListenRequest where
  endpoint : Endpoint
  backlog : Nat
  reuseAddress : Bool := true
  nonBlocking : Bool := true
deriving DecidableEq, Repr

structure Surroundings where
  words : List String
  -- Directives for the log that go before the level in the settings, if they are well formed.
  directives : Option String
  files : Files
  listen : ListenRequest → Except IoError Unit

inductive Ending where
  | answered (text : String)
  | failed (cause : StartError)
  | serving (endpoint : Endpoint) (credentials : Credentials ClientVerifier PrivateKey)
deriving DecidableEq, Repr

structure Start where
  warnings : List String := []
  log : List Event := []
  ending : Ending
deriving DecidableEq, Repr

namespace Surroundings

def filter (surroundings : Surroundings) (settings : Settings) : EventFilter × List String :=
  match surroundings.directives.map Directive.readAll with
  | some (.ok directives) => (.ofDirectives directives, [])
  | _ =>
    let (directives, warnings) := Directive.readSome settings.logLevel
    (.ofDirectives directives, warnings)

def settings (surroundings : Surroundings) : Except Ending Settings :=
  match CommandLine.parse CommandLine.gather surroundings.words with
  | .error .helpAsked => .error (.answered Usage.helpText)
  | .error .versionAsked => .error (.answered Usage.versionText)
  | .error (.usage cause) => .error (.failed (.usage cause))
  | .ok arguments =>
    (arguments.load Toml.parse? surroundings.files).mapError fun cause => .failed (.settings cause)

end Surroundings

namespace Settings

def report (settings : Settings) : Event :=
  .starting settings.host settings.port.toNat settings.tls.certFile settings.tls.verifyClient

def listen (settings : Settings) (surroundings : Surroundings) : Except IoError Endpoint := do
  let endpoint ← Host.resolve settings.host settings.port
  surroundings.listen { endpoint, backlog := EventLoop.maxConnections }
  return endpoint

def start (settings : Settings) (surroundings : Surroundings) : List Event × Ending :=
  let (loading, credentials) := Credentials.load programTools settings.tls surroundings.files
  let before := settings.report :: loading
  match credentials with
  | .error cause => (before, .failed (.credentials cause))
  | .ok credentials =>
    match settings.listen surroundings with
    | .error cause => (before, .failed (.listening cause))
    | .ok endpoint =>
      let listening := Event.listening endpoint.text EventLoop.maxConnections EventLoop.bufferSize
      (before ++ [listening], .serving endpoint credentials)

end Settings

def Start.of (surroundings : Surroundings) : Start :=
  match surroundings.settings with
  | .error ending => { ending }
  | .ok settings =>
    let (filter, warnings) := surroundings.filter settings
    let (events, ending) := settings.start surroundings
    { warnings, log := events.filter filter.passes, ending }

namespace Start

def complaints (start : Start) : List String :=
  match start.ending with
  | .failed cause => start.warnings ++ [s!"{Usage.programName}: {cause.message}"]
  | _ => start.warnings

end Start

end SecureEcho
