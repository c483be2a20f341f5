import SecureEcho.Basic

namespace SecureEcho

inductive Intake where
  | wanted
  -- The peer has announced its end, so nothing is read any more.
  | over
  | refused (why : IoError)
deriving DecidableEq, Repr

inductive Delivery where
  | data (bytes : Bytes)
  | nothing
  -- The peer has announced its end, and all that came before it was delivered.
  | over
  -- The stream ended without that announcement.
  | cutOff
  | failed (why : IoError)
deriving DecidableEq, Repr

-- `output` waits to be sent, and `drain` forgets the front of it. Feeding no bytes tells of the end of
-- the stream; `digest` works on the records that are there in whole, up to the first fault.
class Session (S : Type) where
  output : S → Bytes
  drain : S → Nat → S
  intake : S → Intake
  feed : S → Bytes → S
  digest : S → Option IoError × S
  deliver : S → Nat → Delivery × S
  accept : S → Bytes → Except IoError Nat × S
  announceEnd : S → S

structure ClearSession where
  output : Bytes := []
  undigested : Bytes := []
  plaintext : Bytes := []
  peerIsOver : Bool := false
  streamEnded : Bool := false
  capacity : Nat := 16384
deriving DecidableEq, Repr

namespace ClearSession

def dataMark : UInt8 := 1
def endMark : UInt8 := 0

def encode (bytes : Bytes) : Bytes := bytes.flatMap fun byte => [dataMark, byte]

def fault : IoError := ⟨.invalidData, "not a record"⟩

-- The plaintext in whole records, the bytes after the last of them, and why they stop there.
def decode : Bytes → Bytes × Bytes × Delivery
  | [] => ([], [], .nothing)
  | mark :: rest =>
    if mark = endMark then ([], rest, .over)
    else if mark ≠ dataMark then ([], mark :: rest, .failed fault)
    else
      match rest with
      | [] => ([], [mark], .nothing)
      | byte :: rest =>
        let (bytes, rest, stop) := decode rest
        (byte :: bytes, rest, stop)

def digest (session : ClearSession) : Option IoError × ClearSession :=
  let (bytes, undigested, stop) := decode session.undigested
  let session := { session with undigested, plaintext := session.plaintext ++ bytes }
  match stop with
  | .over => (none, { session with peerIsOver := true })
  | .failed why => (some why, session)
  | _ => (none, session)

def deliver (session : ClearSession) (count : Nat) : Delivery × ClearSession :=
  if count = 0 || !session.plaintext.isEmpty then
    (.data (session.plaintext.take count), { session with plaintext := session.plaintext.drop count })
  else if session.peerIsOver then (.over, session)
  else if session.streamEnded then (.cutOff, session)
  else (.nothing, session)

instance : Session ClearSession where
  output session := session.output
  drain session count := { session with output := session.output.drop count }
  intake session := if session.peerIsOver then .over else .wanted
  feed session bytes :=
    { session with
      undigested := session.undigested ++ bytes
      streamEnded := session.streamEnded || bytes.isEmpty }
  digest := digest
  deliver := deliver
  accept session bytes :=
    let taken := bytes.take session.capacity
    (.ok taken.length, { session with output := session.output ++ encode taken })
  announceEnd session := { session with output := session.output ++ [endMark] }

end ClearSession

end SecureEcho
