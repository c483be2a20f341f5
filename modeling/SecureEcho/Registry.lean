import SecureEcho.Connection

namespace SecureEcho

structure SlotTable (α : Type) where
  cells : List (Option α)
  -- The free keys below the end of the table, the next one to be used first.
  vacant : List Nat
deriving DecidableEq, Repr

namespace SlotTable

variable {α : Type}

def empty : SlotTable α := ⟨[], []⟩

def size (table : SlotTable α) : Nat := table.cells.countP Option.isSome

def get? (table : SlotTable α) (key : Nat) : Option α := table.cells[key]?.join

def nextKey (table : SlotTable α) : Nat := table.vacant.head?.getD table.cells.length

def insert (table : SlotTable α) (value : α) : SlotTable α :=
  match table.vacant with
  | [] => { table with cells := table.cells ++ [some value] }
  | key :: later => ⟨table.cells.set key (some value), later⟩

def update (table : SlotTable α) (key : Nat) (value : α) : SlotTable α :=
  match table.get? key with
  | none => table
  | some _ => { table with cells := table.cells.set key (some value) }

def erase (table : SlotTable α) (key : Nat) : SlotTable α :=
  match table.get? key with
  | none => table
  | some _ => ⟨table.cells.set key none, key :: table.vacant⟩

def values (table : SlotTable α) : List α := table.cells.filterMap id

end SlotTable

-- A connection, with the readiness that was reported for it and is not used up.
structure Slot (C : Type) where
  connection : Connection C
  ready : Readiness
deriving DecidableEq, Repr

structure Registry (C : Type) where
  table : SlotTable (Slot C)
  limit : Nat
  bufferSize : Nat
  throttled : Bool
deriving DecidableEq, Repr

-- A connection that has come to its end: the key it had, and its channel after closing.
structure Ended (C : Type) where
  key : Nat
  channel : C
deriving DecidableEq, Repr

namespace Registry

variable {C : Type}

def new (limit bufferSize : Nat) : Registry C :=
  { table := .empty, limit, bufferSize, throttled := limit == 0 }

def size (registry : Registry C) : Nat := registry.table.size

def hasFreeSlot (registry : Registry C) : Bool := registry.size < registry.limit

def vacantKey (registry : Registry C) : Option Nat :=
  if registry.hasFreeSlot then some registry.table.nextKey else none

def get? (registry : Registry C) (key : Nat) : Option (Slot C) := registry.table.get? key

def updateThrottle (registry : Registry C) : List Event × Registry C :=
  let full := !registry.hasFreeSlot
  if full = registry.throttled then ([], registry)
  else
    ([if full then .tableFull registry.size else .slotFreed registry.size],
      { registry with throttled := full })

-- Takes a new connection in and says which key it has; a full table hands the channel back.
def enroll (registry : Registry C) (channel : C) : Except C Nat × List Event × Registry C :=
  if registry.hasFreeSlot then
    let slot := { connection := .new channel registry.bufferSize, ready := .empty }
    (.ok registry.table.nextKey,
      { registry with table := registry.table.insert slot }.updateThrottle)
  else (.error channel, registry.updateThrottle)

def report (registry : Registry C) (key : Nat) (seen : Readiness) : Registry C :=
  match registry.get? key with
  | none => registry
  | some slot =>
    { registry with
      table := registry.table.update key { slot with ready := slot.ready.union seen } }

def channels (registry : Registry C) : List C :=
  registry.table.values.map fun slot => slot.connection.channel

def hasPending (registry : Registry C) : Bool :=
  registry.table.values.any fun slot => slot.connection.isActionable slot.ready

variable [Channel C] [Closable C]

def release (registry : Registry C) (key : Nat) : Option C × List Event × Registry C :=
  match registry.get? key with
  | none => (none, [], registry)
  | some slot =>
    let (retries, channel) := slot.connection.close
    let (change, registry) := { registry with table := registry.table.erase key }.updateThrottle
    (some channel,
      retries ++ change ++ [.connectionClosed key slot.connection.phase slot.connection.buffered],
      registry)

structure Service (C : Type) where
  registry : Registry C
  scratch : Bytes
  ended : List (Ended C)
  events : List Event
deriving DecidableEq, Repr

def serveSlot (registry : Registry C) (scratch : Bytes) (key : Nat) : Service C :=
  match registry.get? key with
  | none => ⟨registry, scratch, [], []⟩
  | some slot =>
    let turn := slot.connection.notify slot.ready scratch
    let registry :=
      { registry with table := registry.table.update key ⟨turn.connection, turn.ready⟩ }
    match turn.verdict with
    | .keep => ⟨registry, turn.scratch, [], turn.events⟩
    | .close =>
      let (channel, events, registry) := registry.release key
      ⟨registry, turn.scratch, (channel.map (Ended.mk key)).toList, turn.events ++ events⟩

-- Serves one slot after what was served before. A connection that ends is reported by `farewell` at
-- once, before the next slot is served.
def Service.andThen (farewell : Ended C → List Event) (before : Service C) (key : Nat) : Service C :=
  let service := before.registry.serveSlot before.scratch key
  { service with
    ended := before.ended ++ service.ended
    events := before.events ++ service.events ++ service.ended.flatMap farewell }

def serveBelow (registry : Registry C) (scratch : Bytes) (farewell : Ended C → List Event)
    (bound : Nat) : Service C :=
  (List.range bound).foldl (Service.andThen farewell) ⟨registry, scratch, [], []⟩

def serveAll (registry : Registry C) (scratch : Bytes) (farewell : Ended C → List Event) :
    Service C :=
  registry.serveBelow scratch farewell registry.limit

end Registry

end SecureEcho
