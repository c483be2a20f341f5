import SecureEcho.Basic

namespace SecureEcho

structure Ring where
  storage : Bytes
  readAt : Nat
  peekAt : Nat
  writeAt : Nat
deriving DecidableEq, Repr

namespace Ring

def ofCapacity (capacity : Nat) : Ring := ⟨List.replicate (capacity + 1) 0, 0, 0, 0⟩

-- Cells owned, the spare one included.
def size (ring : Ring) : Nat := ring.storage.length

def capacity (ring : Ring) : Nat := ring.size - 1

def distance (ring : Ring) (start stop : Nat) : Nat :=
  if start ≤ stop then stop - start else ring.size - start + stop

def advance (ring : Ring) (cursor steps : Nat) : Nat := (cursor + steps) % ring.size

def length (ring : Ring) : Nat := ring.distance ring.readAt ring.writeAt

def isEmpty (ring : Ring) : Bool := ring.readAt == ring.writeAt

def free (ring : Ring) : Nat := ring.capacity - ring.length

def peeked (ring : Ring) : Nat := ring.distance ring.readAt ring.peekAt

def beforeWrap (ring : Ring) (cursor count : Nat) : Nat := min count (ring.size - cursor)

-- Drops up to `count` bytes from the front, never one that was not handed out, and says how many.
def consume (ring : Ring) (count : Nat) : Nat × Ring :=
  let dropped := min count ring.peeked
  (dropped, { ring with readAt := ring.advance ring.readAt dropped })

def front (ring : Ring) (count : Nat) : Bytes :=
  let first := ring.beforeWrap ring.readAt count
  Bytes.slice ring.storage ring.readAt first ++ Bytes.slice ring.storage 0 (count - first)

-- Copies unconsumed bytes over the start of `target`, as many as fit, and marks them as handed out.
-- Copying always starts at the read cursor, so bytes that were handed out and never consumed are
-- offered again. Nothing to copy leaves the mark where it was.
def peek (ring : Ring) (target : Bytes) : Nat × Bytes × Ring :=
  let count := min target.length ring.length
  if count = 0 then (0, target, ring)
  else (count, Bytes.overwrite target 0 (ring.front count),
    { ring with peekAt := ring.advance ring.readAt count })

def put (ring : Ring) (source : Bytes) : Nat × Ring :=
  let count := min source.length ring.free
  if count = 0 then (0, ring)
  else
    let first := ring.beforeWrap ring.writeAt count
    let storage := Bytes.overwrite ring.storage ring.writeAt (Bytes.slice source 0 first)
    let storage := Bytes.overwrite storage 0 (Bytes.slice source first (count - first))
    (count, { ring with storage, writeAt := ring.advance ring.writeAt count })

def contents (ring : Ring) : Bytes := ring.front ring.length

def describe (ring : Ring) : String :=
  s!"RingBuffer \x7b capacity: {ring.capacity}, read: {ring.readAt}, peek: {ring.peekAt}, " ++
  s!"write: {ring.writeAt} \x7d"

end Ring

end SecureEcho
