import SecureEcho.Channel
import SecureEcho.Network.Address
import SecureEcho.Session
import SecureEcho.Socket

namespace SecureEcho

structure SecureChannel (S : Type) where
  session : S
  socket : Socket
  peer : Endpoint
  -- How many bytes the session has taken from a write that is not confirmed.
  unflushed : Nat := 0
  endAnnounced : Bool := false
deriving DecidableEq, Repr

inductive Flush where
  | finished
  | blocked
  | failed (why : IoError)
deriving DecidableEq, Repr

inductive Fill where
  | more
  -- Nothing came, and nothing will.
  | over
  | blocked
  | failed (why : IoError)
deriving DecidableEq, Repr

namespace SecureChannel

variable {S : Type}

def accept (session : S) (socket : Socket) (peer : Endpoint) : Except IoError (SecureChannel S) := do
  return { session, socket := ← socket.setNoDelay, peer }

variable [Session S]

def flush (session : S) (socket : Socket) : Flush × S × Socket :=
  if Session.output session = [] then (.finished, session, socket)
  else
    match _outcome : (socket.write (Session.output session)).1 with
    | .done count =>
      flush (Session.drain session count) (socket.write (Session.output session)).2
    | .interrupted => flush session (socket.write (Session.output session)).2
    | .blocked => (.blocked, session, (socket.write (Session.output session)).2)
    | .failed why => (.failed why, session, (socket.write (Session.output session)).2)
termination_by socket.room.length
decreasing_by all_goals exact Socket.room_lt_of_write (by simp [_outcome])

def receive (socket : Socket) : Attempt Bytes × Socket :=
  match _outcome : socket.read.1 with
  | .interrupted => receive socket.read.2
  | other => (other, socket.read.2)
termination_by socket.incoming.length
decreasing_by exact Socket.incoming_lt_of_read (by simp [_outcome])

def nudge (session : S) (socket : Socket) : S × Socket :=
  if Session.output session = [] then (session, socket)
  else
    match socket.write (Session.output session) with
    | (.done count, socket) => (Session.drain session count, socket)
    | (_, socket) => (session, socket)

def digest (session : S) (socket : Socket) (count : Nat) : Fill × S × Socket :=
  match Session.digest session with
  | (some why, session) => (.failed why, nudge session socket)
  | (none, session) => (if count = 0 then .over else .more, session, socket)

def fill (session : S) (socket : Socket) : Fill × S × Socket :=
  match Session.intake session with
  | .refused why => (.failed why, session, socket)
  | .over => digest session socket 0
  | .wanted =>
    match receive socket with
    | (.done bytes, socket) => digest (Session.feed session bytes) socket bytes.length
    | (.failed why, socket) => (.failed why, session, socket)
    | (_, socket) => (.blocked, session, socket)

@[simp] theorem incoming_flush (session : S) (socket : Socket) :
    (flush session socket).2.2.incoming = socket.incoming := by
  fun_induction flush session socket <;> simp_all

theorem room_flush_lt {session : S} {socket : Socket} (blocked : (flush session socket).1 = .blocked) :
    (flush session socket).2.2.room.length < socket.room.length := by
  fun_induction flush session socket with
  | case1 => simp at blocked
  | case2 _ _ _ _ _ again | case3 _ _ _ _ again => exact Nat.lt_of_lt_of_le (again blocked) (by simp)
  | case4 _ _ _ full => exact Socket.room_lt_of_write (by simp [full])
  | case5 => simp at blocked

theorem incoming_receive_lt {socket : Socket} {bytes : Bytes}
    (found : (receive socket).1 = .done bytes) :
    (receive socket).2.incoming.length < socket.incoming.length := by
  fun_induction receive socket with
  | case1 socket interrupted ih =>
    exact Nat.lt_of_lt_of_le (ih found) (by simp)
  | case2 => exact Socket.incoming_lt_of_read (by simp_all)

@[simp] theorem incoming_nudge (session : S) (socket : Socket) :
    (nudge session socket).2.incoming = socket.incoming := by
  have step := Socket.incoming_write socket (Session.output session)
  unfold nudge
  split
  · rfl
  · split <;> simp_all

@[simp] theorem incoming_digest (session : S) (socket : Socket) (count : Nat) :
    (digest session socket count).2.2.incoming = socket.incoming := by
  unfold digest
  split <;> simp

theorem incoming_fill_lt {session : S} {socket : Socket} (more : (fill session socket).1 = .more) :
    (fill session socket).2.2.incoming.length < socket.incoming.length := by
  unfold fill at more ⊢
  split
  · simp_all
  · simp_all [digest]
    split at more <;> simp at more
  · rename_i wanted
    simp only [wanted] at more
    split
    · rename_i bytes later taken
      have found : (receive socket).1 = .done bytes := by rw [taken]
      simpa [taken] using incoming_receive_lt found
    all_goals simp_all

-- Draws plaintext. When the session has none, more is taken in and the same is tried again; what comes
-- together with the end of the stream is still handed out.
def read (channel : SecureChannel S) (target : Bytes) : Transfer × Bytes × SecureChannel S :=
  match _flushed : flush channel.session channel.socket with
  | (.blocked, session, socket) => (.blocked .write, target, { channel with session, socket })
  | (.failed why, session, socket) => (.failed why, target, { channel with session, socket })
  | (.finished, session, socket) =>
    match Session.deliver session target.length with
    | (.data bytes, session) =>
      (.progressed bytes.length, Bytes.overwrite target 0 bytes, { channel with session, socket })
    | (.over, session) | (.cutOff, session) => (.progressed 0, target, { channel with session, socket })
    | (.failed why, session) => (.failed why, target, { channel with session, socket })
    | (.nothing, session) =>
      match _filled : fill session socket with
      | (.more, session, socket) => read { channel with session, socket } target
      | (.over, session, socket) =>
        match Session.deliver session target.length with
        | (.data bytes, session) =>
          (.progressed bytes.length, Bytes.overwrite target 0 bytes, { channel with session, socket })
        | (_, session) => (.progressed 0, target, { channel with session, socket })
      | (.blocked, session, socket) => (.blocked .read, target, { channel with session, socket })
      | (.failed why, session, socket) => (.failed why, target, { channel with session, socket })
termination_by channel.socket.incoming.length
decreasing_by
  have taken := incoming_fill_lt (congrArg Prod.fst _filled)
  have kept := incoming_flush channel.session channel.socket
  simp only [_filled, _flushed] at taken kept
  rw [← kept]
  exact taken

@[simp] theorem unflushed_read (channel : SecureChannel S) (target : Bytes) :
    (channel.read target).2.2.unflushed = channel.unflushed := by
  fun_induction read channel target with
  | case7 _ _ _ _ _ _ _ _ _ again => exact again
  | case1 | case2 | case3 | case4 | case5 | case6 | case8 | case9 | case10 | case11 => rfl

def confirm (channel : SecureChannel S) : Transfer × SecureChannel S :=
  match flush channel.session channel.socket with
  | (.finished, session, socket) =>
    (.progressed channel.unflushed, { channel with session, socket, unflushed := 0 })
  | (.blocked, session, socket) => (.blocked .write, { channel with session, socket })
  | (.failed why, session, socket) => (.failed why, { channel with session, socket })

def write (channel : SecureChannel S) (offer : Bytes) : Transfer × SecureChannel S :=
  if channel.unflushed ≠ 0 then channel.confirm
  else if offer.isEmpty then (.progressed 0, channel)
  else
    match Session.accept channel.session offer with
    | (.error why, session) => (.failed why, { channel with session })
    | (.ok count, session) => confirm { channel with session, unflushed := count }

def close (channel : SecureChannel S) : Closure × SecureChannel S :=
  let session :=
    if channel.endAnnounced then channel.session else Session.announceEnd channel.session
  match flush session channel.socket with
  | (.blocked, session, socket) =>
    (.blocked .write, { channel with session, socket, endAnnounced := true })
  | (_, session, socket) =>
    (.finished, { channel with session, socket := socket.shutDown, endAnnounced := true })

instance : Channel (SecureChannel S) := ⟨read, write, close⟩

instance : Closable (SecureChannel S) where
  patience channel := channel.socket.room.length
  patience_lt := by
    intro channel next want blocked
    simp only [Channel.close, close] at blocked
    split at blocked
    · rename_i session socket flushed
      have shorter := room_flush_lt (congrArg Prod.fst flushed)
      rw [flushed] at shorter
      simp only [Prod.mk.injEq] at blocked
      rw [← blocked.2]
      exact shorter
    · simp at blocked

end SecureChannel

end SecureEcho
