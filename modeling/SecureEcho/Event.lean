import SecureEcho.Basic
import SecureEcho.Readiness

namespace SecureEcho

inductive Level where
  | trace
  | debug
  | info
  | warn
  | error
deriving DecidableEq, Repr

namespace Level

def name : Level → String
  | .trace => "TRACE"
  | .debug => "DEBUG"
  | .info => "INFO"
  | .warn => "WARN"
  | .error => "ERROR"

def weight : Level → Nat
  | .trace => 0
  | .debug => 1
  | .info => 2
  | .warn => 3
  | .error => 4

end Level

inductive Phase where
  | reading
  | writing
deriving DecidableEq, Repr

def Phase.describe : Phase → String
  | .reading => "Reading"
  | .writing => "Writing"

inductive Event where
  | hangup (buffered : Nat)
  | stored (bytes : Nat)
  | overrun (count room : Nat)
  | readFailed (why : IoError)
  | offered (bytes : Nat)
  | consumed (bytes : Nat)
  | writeFailed (why : IoError)
  | closeRetried (want : Direction) (attempts : Nat)
  | tableFull (connections : Nat)
  | slotFreed (connections : Nat)
  | connectionClosed (key : Nat) (phase : Phase) (discarded : Nat)
  | connectionAccepted (key : Nat) (peer : String) (connections : Nat)
  | connectionReleased (key : Nat) (peer : String)
  | acceptFailed (why : IoError)
  | limitReached (peer : String)
  | setupFailed (peer : String) (why : IoError)
  | registrationFailed (peer : String) (why : IoError)
  | starting (host : String) (port : Nat) (certificate : String) (verifyClient : Bool)
  | materialLoaded (roots chain : Nat) (verifyClient : Bool)
  | listening (address : String) (connections bufferSize : Nat)
deriving DecidableEq, Repr

namespace Event

def level : Event → Level
  | .hangup .. | .stored .. | .offered .. | .consumed .. | .closeRetried .. => .trace
  | .connectionClosed .. | .connectionAccepted .. | .connectionReleased .. | .materialLoaded .. => .debug
  | .tableFull .. | .slotFreed .. | .starting .. | .listening .. => .info
  | .overrun .. | .readFailed .. | .writeFailed .. => .warn
  | .limitReached .. | .setupFailed .. | .registrationFailed .. => .warn
  | .acceptFailed .. => .error

-- The part of the program that an event comes from, by which it can be chosen for the log.
def target : Event → String
  | .starting .. => "tls_echo"
  | .materialLoaded .. => "tls_echo::tls"
  | _ => "tls_echo::runtime"

def content : Event → String × List (String × String)
  | .hangup buffered => ("hangup", [("buffered", toString buffered)])
  | .stored bytes => ("put into buffer", [("bytes", toString bytes)])
  | .overrun count room =>
    ("connection buffer overrun", [("read", toString count), ("stored", toString room)])
  | .readFailed why => ("channel read failed", [("error", why.message)])
  | .offered bytes => ("got from buffer", [("bytes", toString bytes)])
  | .consumed bytes => ("consumed from buffer", [("bytes", toString bytes)])
  | .writeFailed why => ("channel write failed", [("error", why.message)])
  | .closeRetried want attempts =>
    ("close needs retry", [("want", want.describe), ("attempts", toString attempts)])
  | .tableFull connections =>
    ("Connection table full, pausing accepts", [("connections", toString connections)])
  | .slotFreed connections =>
    ("Slot freed, resuming accepts", [("connections", toString connections)])
  | .connectionClosed key phase discarded =>
    ("Connection closed",
      [("conn_id", toString key), ("state", phase.describe), ("discarded", toString discarded)])
  | .connectionAccepted key peer connections =>
    ("Accepted connection",
      [("conn_id", toString key), ("peer", peer), ("connections", toString connections)])
  | .connectionReleased key peer => ("Released connection", [("conn_id", toString key), ("peer", peer)])
  | .acceptFailed why => ("Accept error", [("error", why.message)])
  | .limitReached peer => ("Connection limit reached", [("peer", peer)])
  | .setupFailed peer why => ("TLS accept failed", [("peer", peer), ("error", why.message)])
  | .registrationFailed peer why =>
    ("Failed to register connection", [("peer", peer), ("error", why.message)])
  | .starting host port certificate verifyClient =>
    ("Starting tls-echo server",
      [("host", host), ("port", toString port), ("cert", certificate),
        ("verify_client", toString verifyClient)])
  | .materialLoaded roots chain verifyClient =>
    ("Loaded TLS material",
      [("roots", toString roots), ("chain", toString chain), ("verify_client", toString verifyClient)])
  | .listening address connections bufferSize =>
    ("Listening",
      [("addr", address), ("max_connections", toString connections),
        ("buffer_size", toString bufferSize)])

def line (event : Event) : String :=
  let (message, fields) := event.content
  fields.foldl (fun text field => s!"{text} {field.1}={field.2}") s!"{event.level.name} {message}"

end Event

end SecureEcho
