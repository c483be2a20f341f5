import SecureEcho.Channel
import SecureEcho.Event
import SecureEcho.Ring

namespace SecureEcho

structure Connection (C : Type) where
  phase : Phase
  ring : Ring
  interest : Readiness
  channel : C
deriving DecidableEq, Repr

inductive Verdict where
  | keep
  | close
deriving DecidableEq, Repr

structure Turn (C : Type) where
  verdict : Verdict
  connection : Connection C
  -- The readiness that is not used up.
  ready : Readiness
  scratch : Bytes
  events : List Event
deriving DecidableEq, Repr

namespace Connection

variable {C : Type}

def new (channel : C) (bufferSize : Nat) : Connection C :=
  { phase := .reading, ring := .ofCapacity bufferSize, interest := .waitingFor .read, channel }

def buffered (connection : Connection C) : Nat := connection.ring.length

def isActionable (connection : Connection C) (ready : Readiness) : Bool :=
  ready.hangup || ready.meets connection.interest

def holdUp (connection : Connection C) (want : Direction) (ready : Readiness) (scratch : Bytes)
    (events : List Event) : Turn C :=
  { verdict := .keep, connection := { connection with interest := .waitingFor want },
    ready := ready.without (.ofDirection want), scratch, events }

variable [Channel C]

def readTurn (connection : Connection C) (ready : Readiness) (scratch : Bytes) : Turn C :=
  let (outcome, scratch, channel) := Channel.read connection.channel scratch
  let connection := { connection with channel }
  match outcome with
  | .blocked want => connection.holdUp want ready scratch []
  | .failed why => ⟨.close, connection, ready, scratch, [.readFailed why]⟩
  | .progressed 0 => ⟨.close, connection, ready, scratch, []⟩
  | .progressed count =>
    let (stored, ring) := connection.ring.put (scratch.take count)
    let connection := { connection with ring }
    if stored = count then
      ⟨.keep, { connection with phase := .writing, interest := .waitingFor .write }, ready, scratch,
        [.stored stored]⟩
    else ⟨.close, connection, ready, scratch, [.stored stored, .overrun count stored]⟩

-- Offers the store's oldest bytes to the channel, as many as the staging area holds. Only what the
-- channel confirms is consumed; a confirmed offer of full length ends the phase.
def writeTurn (connection : Connection C) (ready : Readiness) (scratch : Bytes) : Turn C :=
  if connection.ring.isEmpty then
    ⟨.keep, connection, ready.without (.ofDirection .write), scratch, []⟩
  else
    let (count, scratch, ring) := connection.ring.peek scratch
    let (outcome, channel) := Channel.write connection.channel (scratch.take count)
    let connection := { connection with ring, channel }
    match outcome with
    | .blocked want => connection.holdUp want ready scratch [.offered count]
    | .failed why => ⟨.close, connection, ready, scratch, [.offered count, .writeFailed why]⟩
    | .progressed taken =>
      let (consumed, ring) := connection.ring.consume taken
      let connection := { connection with ring }
      let events := [.offered count, .consumed consumed]
      if taken = count then
        ⟨.keep, { connection with phase := .reading, interest := .waitingFor .read }, ready, scratch,
          events⟩
      else ⟨.keep, connection, ready, scratch, events⟩

def notify (connection : Connection C) (ready : Readiness) (scratch : Bytes) : Turn C :=
  if ready.hangup then ⟨.close, connection, ready, scratch, [.hangup connection.buffered]⟩
  else if ready.meets connection.interest then
    match connection.phase with
    | .reading => connection.readTurn ready scratch
    | .writing => connection.writeTurn ready scratch
  else ⟨.keep, connection, ready, scratch, []⟩

-- Tries to close, again after every attempt that is blocked; `attempts` of them were blocked before.
-- The count of attempts left is the channel's patience, so the last one is never blocked.
def closeWithin (channel : C) : (left attempts : Nat) → List Event × C
  | 0, _ => ([], (Channel.close channel).2)
  | left + 1, attempts =>
    match Channel.close channel with
    | (.finished, channel) => ([], channel)
    | (.blocked want, channel) =>
      let (events, channel) := closeWithin channel left (attempts + 1)
      (.closeRetried want (attempts + 1) :: events, channel)

def close [Closable C] (connection : Connection C) : List Event × C :=
  closeWithin connection.channel (Closable.patience connection.channel) 0

def describe (connection : Connection C) (channel : String) : String :=
  s!"Connection \x7b state: {connection.phase.describe}, buffer: {connection.ring.describe}, " ++
  s!"interest: {connection.interest.describe}, channel: {channel} \x7d"

end Connection

end SecureEcho
