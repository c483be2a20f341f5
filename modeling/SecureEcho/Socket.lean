import SecureEcho.Basic

namespace SecureEcho

inductive Transport where
  | internet
  -- Within the host, where there is no sending delay to switch off.
  | internal
deriving DecidableEq, Repr

inductive Attempt (α : Type) where
  | done (result : α)
  | blocked
  | interrupted
  | failed (why : IoError)
deriving DecidableEq, Repr

-- One operation on a socket, and whether the socket could not go on with it.
structure SocketCall where
  isWrite : Bool
  isBlocked : Bool
deriving DecidableEq, Repr

structure Socket where
  transport : Transport := .internet
  -- What the next reads find. No bytes at all are the end of the stream.
  incoming : List (Attempt Bytes) := []
  room : List (Attempt Nat) := []
  sent : Bytes := []
  calls : List SocketCall := []
  noDelay : Bool := false
  isShutDown : Bool := false
deriving DecidableEq, Repr

namespace Socket

def isBlocked {α : Type} : Attempt α → Bool
  | .blocked => true
  | _ => false

def read (socket : Socket) : Attempt Bytes × Socket :=
  let outcome := socket.incoming.head?.getD .blocked
  (outcome,
    { socket with
      incoming := socket.incoming.tail
      calls := socket.calls ++ [⟨false, isBlocked outcome⟩] })

def write (socket : Socket) (offer : Bytes) : Attempt Nat × Socket :=
  let outcome := socket.room.head?.getD (.failed (.ofOs .connectionReset))
  let socket :=
    { socket with
      room := socket.room.tail
      calls := socket.calls ++ [⟨true, isBlocked outcome⟩] }
  match outcome with
  | .done count =>
    let taken := offer.take count
    (.done taken.length, { socket with sent := socket.sent ++ taken })
  | .blocked => (.blocked, socket)
  | .interrupted => (.interrupted, socket)
  | .failed why => (.failed why, socket)

def setNoDelay (socket : Socket) : Except IoError Socket :=
  match socket.transport with
  | .internet => .ok { socket with noDelay := true }
  | .internal => .error (.ofOs .notSupported)

def shutDown (socket : Socket) : Socket := { socket with isShutDown := true }

@[simp] theorem incoming_read (socket : Socket) : socket.read.2.incoming = socket.incoming.tail := rfl

@[simp] theorem incoming_write (socket : Socket) (offer : Bytes) :
    (socket.write offer).2.incoming = socket.incoming := by
  simp only [write]; split <;> rfl

@[simp] theorem room_write (socket : Socket) (offer : Bytes) :
    (socket.write offer).2.room = socket.room.tail := by
  simp only [write]; split <;> rfl

-- The two answers that are not used up, for a read and for a write, are left out.

theorem incoming_lt_of_read {socket : Socket} (found : socket.read.1 ≠ .blocked) :
    socket.read.2.incoming.length < socket.incoming.length := by
  cases answers : socket.incoming with
  | nil => simp [read, answers] at found
  | cons answer later => simp [answers]

theorem room_lt_of_write {socket : Socket} {offer : Bytes}
    (alive : ∀ why, (socket.write offer).1 ≠ .failed why) :
    (socket.write offer).2.room.length < socket.room.length := by
  cases answers : socket.room with
  | nil => exact absurd (by simp [write, answers]) (alive (.ofOs .connectionReset))
  | cons answer later => simp [answers]

end Socket

end SecureEcho
