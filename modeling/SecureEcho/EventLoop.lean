import SecureEcho.Channel.Secure
import SecureEcho.Registry

namespace SecureEcho

class Addressed (C : Type) where
  peer : C → Endpoint

instance {S : Type} : Addressed (SecureChannel S) := ⟨SecureChannel.peer⟩

structure PollReport where
  token : Nat
  readable : Bool := false
  writable : Bool := false
  failed : Bool := false
  readEnded : Bool := false
  writeEnded : Bool := false
deriving DecidableEq, Repr

-- A failure is a hangup, and so is the end of both directions together.
def PollReport.readiness (report : PollReport) : Readiness :=
  { readable := report.readable, writable := report.writable,
    hangup := report.failed || (report.readEnded && report.writeEnded) }

inductive Arriving (C : Type) where
  | nobody
  | failed (why : IoError)
  | client (peer : Endpoint) (setup : Except IoError C) (registration : Except IoError Unit)

structure Occasion (C : Type) where
  reports : List PollReport
  -- Counts only if the loop asks.
  arriving : Arriving C

inductive Wait where
  | never
  | untilReported
deriving DecidableEq, Repr

structure EventLoop (C : Type) where
  listenerReady : Bool
  registry : Registry C
  scratch : Bytes
deriving DecidableEq, Repr

structure Round (C : Type) where
  wait : Wait
  asked : Bool
  registered : Option Nat
  enrolled : Option Nat
  turnedAway : Option (Ended C)
  ended : List (Ended C)
  events : List Event
  loop : EventLoop C
deriving DecidableEq, Repr

namespace EventLoop

-- Sockets in the table at most, the one that listens included.
def maxConnections : Nat := 256

def bufferSize : Nat := 4096

-- The greatest token, which no slot's key reaches.
def listenerToken : Nat := 0xffffffffffffffff

variable {C : Type}

def start : EventLoop C where
  listenerReady := false
  registry := .new (maxConnections - 1) bufferSize
  scratch := List.replicate bufferSize 0

def wantsClient (loop : EventLoop C) : Bool := loop.listenerReady && !loop.registry.throttled

def hasPending (loop : EventLoop C) : Bool := loop.wantsClient || loop.registry.hasPending

def wait (loop : EventLoop C) : Wait := if loop.hasPending then .never else .untilReported

def record (loop : EventLoop C) (report : PollReport) : EventLoop C :=
  if report.token = listenerToken then
    { loop with listenerReady := loop.listenerReady || report.readable }
  else { loop with registry := loop.registry.report report.token report.readiness }

structure Acceptance (C : Type) where
  loop : EventLoop C
  registered : Option Nat := none
  enrolled : Option Nat := none
  -- A client that was registered and got no slot: the token taken from it, and its channel closed.
  turnedAway : Option (Ended C) := none
  events : List Event := []
deriving DecidableEq, Repr

variable [Channel C] [Closable C]

-- Takes a client in. A socket is registered under the key that its connection is going to have, so
-- there is one to have, and a client that fails on the way leaves nothing behind.
def welcome (loop : EventLoop C) (peer : Endpoint) (setup : Except IoError C)
    (registration : Except IoError Unit) : Acceptance C :=
  match loop.registry.vacantKey with
  | none => { loop, events := [.limitReached peer.text] }
  | some token =>
    match setup with
    | .error why => { loop, events := [.setupFailed peer.text why] }
    | .ok channel =>
      match registration with
      | .error why => { loop, events := [.registrationFailed peer.text why] }
      | .ok () =>
        match loop.registry.enroll channel with
        | (.ok key, events, registry) =>
          { loop := { loop with registry }, registered := some token, enrolled := some key,
            events := events ++ [.connectionAccepted key peer.text registry.size] }
        | (.error channel, events, registry) =>
          let closed := (Connection.closeWithin channel (Closable.patience channel) 0).2
          { loop := { loop with registry }, registered := some token,
            turnedAway := some ⟨token, closed⟩, events }

def acceptOne (loop : EventLoop C) : Arriving C → Acceptance C
  | .nobody => { loop := { loop with listenerReady := false } }
  | .failed why => { loop, events := [.acceptFailed why] }
  | .client peer setup registration => loop.welcome peer setup registration

variable [Addressed C]

def farewell (ended : Ended C) : List Event :=
  [.connectionReleased ended.key (Addressed.peer ended.channel).text]

def next (loop : EventLoop C) (occasion : Occasion C) : Round C :=
  let recorded := occasion.reports.foldl record loop
  let acceptance :=
    if recorded.wantsClient then recorded.acceptOne occasion.arriving else { loop := recorded }
  let service := acceptance.loop.registry.serveAll acceptance.loop.scratch farewell
  { wait := loop.wait
    asked := recorded.wantsClient
    registered := acceptance.registered
    enrolled := acceptance.enrolled
    turnedAway := acceptance.turnedAway
    ended := service.ended
    events := acceptance.events ++ service.events
    loop :=
      { acceptance.loop with registry := service.registry, scratch := service.scratch } }

def run (loop : EventLoop C) : List (Occasion C) → List (Round C)
  | [] => []
  | occasion :: later =>
    let round := loop.next occasion
    round :: round.loop.run later

end EventLoop

end SecureEcho
