import SecureEcho.Proofs.Registry.Service

namespace SecureEcho

structure Placement where
  serial : Nat
  key : Nat
deriving DecidableEq, Repr

structure Declined (C : Type) where
  offer : Nat
  channel : Recorded C

-- Readiness reported for the channel with this number, when it had had so many calls.
structure Report where
  serial : Nat
  seen : Readiness
  calls : Nat
deriving DecidableEq, Repr

structure Ledger (C : Type) where
  registry : Registry (Recorded C)
  offered : Nat := 0
  declined : List (Declined C) := []
  placed : List Placement := []
  reported : List Report := []
  ended : List (Ended (Recorded C)) := []
  events : List Event := []

inductive Operation (C : Type) where
  | enroll (channel : C)
  | report (key : Nat) (seen : Readiness)
  | release (key : Nat)
  | serve (scratch : Bytes) (farewell : Ended (Recorded C) → List Event)

namespace Ledger

variable {C : Type}

def start (limit bufferSize : Nat) : Ledger C := { registry := .new limit bufferSize }

def enroll (ledger : Ledger C) (channel : C) : Ledger C :=
  let (place, events, registry) := ledger.registry.enroll { channel, serial := ledger.offered }
  let next :=
    { ledger with registry, offered := ledger.offered + 1, events := ledger.events ++ events }
  match place with
  | .ok key => { next with placed := ledger.placed ++ [⟨ledger.offered, key⟩] }
  | .error record => { next with declined := ledger.declined ++ [⟨ledger.offered, record⟩] }

def report (ledger : Ledger C) (key : Nat) (seen : Readiness) : Ledger C :=
  let made := (ledger.registry.get? key).map fun slot =>
    Report.mk slot.connection.channel.serial seen slot.connection.channel.calls.length
  { ledger with
    registry := ledger.registry.report key seen
    reported := ledger.reported ++ made.toList }

def served (ledger : Ledger C) (service : Registry.Service (Recorded C)) : Ledger C :=
  { ledger with
    registry := service.registry
    ended := ledger.ended ++ service.ended
    events := ledger.events ++ service.events }

variable [Channel C] [Closable C]

def release (ledger : Ledger C) (key : Nat) : Ledger C :=
  let (channel, events, registry) := ledger.registry.release key
  { ledger with
    registry
    ended := ledger.ended ++ (channel.map (Ended.mk key)).toList
    events := ledger.events ++ events }

def serveSlot (ledger : Ledger C) (scratch : Bytes) (farewell : Ended (Recorded C) → List Event)
    (key : Nat) : Ledger C :=
  ledger.served (.andThen farewell ⟨ledger.registry, scratch, [], []⟩ key)

def serving (ledger : Ledger C) (scratch : Bytes) (farewell : Ended (Recorded C) → List Event)
    (bound : Nat) : Ledger C :=
  ledger.served (ledger.registry.serveBelow scratch farewell bound)

def perform (ledger : Ledger C) : Operation C → Ledger C
  | .enroll channel => ledger.enroll channel
  | .report key seen => ledger.report key seen
  | .release key => ledger.release key
  | .serve scratch farewell => ledger.served (ledger.registry.serveAll scratch farewell)

def after (limit bufferSize : Nat) (operations : List (Operation C)) : Ledger C :=
  operations.foldl perform (start limit bufferSize)

-- The states that a run passes through, those within a service included.
inductive Reached (limit bufferSize : Nat) : Ledger C → Prop where
  | start : Reached limit bufferSize (start limit bufferSize)
  | enroll {ledger : Ledger C} (path : Reached limit bufferSize ledger) (channel : C) :
      Reached limit bufferSize (ledger.enroll channel)
  | report {ledger : Ledger C} (path : Reached limit bufferSize ledger) (key : Nat)
      (seen : Readiness) : Reached limit bufferSize (ledger.report key seen)
  | release {ledger : Ledger C} (path : Reached limit bufferSize ledger) (key : Nat) :
      Reached limit bufferSize (ledger.release key)
  | serveSlot {ledger : Ledger C} (path : Reached limit bufferSize ledger) (scratch : Bytes)
      (farewell : Ended (Recorded C) → List Event) (key : Nat) :
      Reached limit bufferSize (ledger.serveSlot scratch farewell key)

-- One change of the account: a channel comes in or is turned away, readiness is noted, a connection
-- is notified and goes on, or it is closed, with or without a last notification.
inductive Step (ledger : Ledger C) : Ledger C → Prop where
  | enrolled {throttled : Bool} {events : List Event} (channel : C)
      (free : ledger.registry.hasFreeSlot = true) :
      Step ledger
        { ledger with
          registry :=
            { ledger.registry with
              table := ledger.registry.table.insert
                ⟨.new { channel, serial := ledger.offered } ledger.registry.bufferSize, .empty⟩
              throttled }
          offered := ledger.offered + 1
          placed := ledger.placed ++ [⟨ledger.offered, ledger.registry.table.nextKey⟩]
          events }
  | declined {throttled : Bool} {events : List Event} (channel : C)
      (full : ledger.registry.hasFreeSlot = false) :
      Step ledger
        { ledger with
          registry := { ledger.registry with throttled }
          offered := ledger.offered + 1
          declined := ledger.declined ++ [⟨ledger.offered, { channel, serial := ledger.offered }⟩]
          events }
  | reported {key : Nat} {slot : Slot (Recorded C)} (found : ledger.registry.get? key = some slot)
      (seen : Readiness) :
      Step ledger
        { ledger with
          registry :=
            { ledger.registry with
              table := ledger.registry.table.update key
                { slot with ready := slot.ready.union seen } }
          reported := ledger.reported ++
            [⟨slot.connection.channel.serial, seen, slot.connection.channel.calls.length⟩] }
  | kept {events : List Event} {key : Nat} {slot : Slot (Recorded C)} {scratch : Bytes}
      {turn : Turn (Recorded C)} (found : ledger.registry.get? key = some slot)
      (turned : slot.connection.Turned slot.ready scratch turn) (kept : turn.verdict = .keep) :
      Step ledger
        { ledger with
          registry :=
            { ledger.registry with table := ledger.registry.table.update key turn.slot }
          events }
  | closed {throttled : Bool} {events : List Event} {key : Nat} {slot : Slot (Recorded C)}
      {connection : Connection (Recorded C)} (found : ledger.registry.get? key = some slot)
      (last : connection = slot.connection ∨ ∃ scratch turn,
        slot.connection.Turned slot.ready scratch turn ∧ turn.connection = connection) :
      Step ledger
        { ledger with
          registry :=
            { ledger.registry with table := ledger.registry.table.erase key, throttled }
          ended := ledger.ended ++ [⟨key, connection.close.2⟩]
          events }

theorem enroll_step (ledger : Ledger C) (channel : C) : ledger.Step (ledger.enroll channel) := by
  unfold enroll Registry.enroll
  cases free : ledger.registry.hasFreeSlot with
  | true =>
    simp only [↓reduceIte, Registry.updateThrottle_eq]
    exact .enrolled channel free
  | false =>
    simp only [Bool.false_eq_true, ↓reduceIte, Registry.updateThrottle_eq]
    exact .declined channel free

theorem report_step (ledger : Ledger C) (key : Nat) (seen : Readiness) :
    ledger.report key seen = ledger ∨ ledger.Step (ledger.report key seen) := by
  unfold report Registry.report
  cases found : ledger.registry.get? key with
  | none => exact .inl (by simp)
  | some slot => exact .inr (.reported found seen)

theorem release_of_free {ledger : Ledger C} {key : Nat} (free : ledger.registry.get? key = none) :
    ledger.release key = ledger := by
  simp [release, Registry.release_of_free free]

theorem release_of_found {ledger : Ledger C} {key : Nat} {slot : Slot (Recorded C)}
    (found : ledger.registry.get? key = some slot) :
    ledger.release key =
      { ledger with
        registry := (ledger.registry.vacate key).2
        ended := ledger.ended ++ [⟨key, slot.connection.close.2⟩]
        events := ledger.events ++ (slot.connection.close.1 ++ (ledger.registry.vacate key).1 ++
          [.connectionClosed key slot.connection.phase slot.connection.buffered]) } := by
  simp only [release, Registry.release_of_found found]
  rfl

theorem serveSlot_of_free {ledger : Ledger C} {key : Nat} (free : ledger.registry.get? key = none)
    (scratch : Bytes) (farewell : Ended (Recorded C) → List Event) :
    ledger.serveSlot scratch farewell key = ledger := by
  simp [serveSlot, served, Registry.Service.andThen, Registry.serveSlot_of_free free]

theorem serveSlot_of_keep {ledger : Ledger C} {key : Nat} {slot : Slot (Recorded C)} {scratch : Bytes}
    {turn : Turn (Recorded C)} (found : ledger.registry.get? key = some slot)
    (turned : slot.connection.Turned slot.ready scratch turn) (kept : turn.verdict = .keep)
    (farewell : Ended (Recorded C) → List Event) :
    ledger.serveSlot scratch farewell key =
      { ledger with
        registry := { ledger.registry with table := ledger.registry.table.update key turn.slot }
        events := ledger.events ++ turn.events } := by
  simp [serveSlot, served, Registry.Service.andThen, Registry.serveSlot_of_keep found turned kept]

theorem serveSlot_of_close {ledger : Ledger C} {key : Nat} {slot : Slot (Recorded C)} {scratch : Bytes}
    {turn : Turn (Recorded C)} (found : ledger.registry.get? key = some slot)
    (turned : slot.connection.Turned slot.ready scratch turn) (finished : turn.verdict = .close)
    (farewell : Ended (Recorded C) → List Event) :
    ledger.serveSlot scratch farewell key =
      { ledger with
        registry := (ledger.registry.vacate key).2
        ended := ledger.ended ++ [⟨key, turn.connection.close.2⟩]
        events := ledger.events ++ (turn.events ++
          (turn.connection.close.1 ++ (ledger.registry.vacate key).1 ++
            [.connectionClosed key turn.connection.phase turn.connection.buffered]) ++
          farewell ⟨key, turn.connection.close.2⟩) } := by
  simp [serveSlot, served, Registry.Service.andThen, Registry.serveSlot_of_close found turned finished]

theorem release_step (ledger : Ledger C) (key : Nat) :
    ledger.release key = ledger ∨ ledger.Step (ledger.release key) := by
  cases found : ledger.registry.get? key with
  | none => exact .inl (release_of_free found)
  | some slot =>
    right
    rw [release_of_found found, Registry.vacate, Registry.updateThrottle_eq]
    exact .closed found (.inl rfl)

theorem serveSlot_step (ledger : Ledger C) (scratch : Bytes)
    (farewell : Ended (Recorded C) → List Event) (key : Nat) :
    ledger.serveSlot scratch farewell key = ledger ∨
      ledger.Step (ledger.serveSlot scratch farewell key) := by
  cases found : ledger.registry.get? key with
  | none => exact .inl (serveSlot_of_free found scratch farewell)
  | some slot =>
    right
    have turned := slot.connection.turned_notify slot.ready scratch
    cases verdict : (slot.connection.notify slot.ready scratch).verdict with
    | keep =>
      rw [serveSlot_of_keep found turned verdict]
      exact .kept found turned verdict
    | close =>
      rw [serveSlot_of_close found turned verdict, Registry.vacate, Registry.updateThrottle_eq]
      exact .closed found (.inr ⟨scratch, _, turned, rfl⟩)

theorem Step.sound {ledger next : Ledger C} (step : ledger.Step next)
    (sound : ledger.registry.table.Sound) : next.registry.table.Sound := by
  cases step with
  | enrolled channel free => exact sound.insert _
  | declined channel full => exact sound
  | reported found seen => exact sound.update found _
  | kept found turned kept => exact sound.update found _
  | closed found last => exact sound.erase found

theorem Reached.invariant {limit bufferSize : Nat} {Invariant : Ledger C → Prop}
    (initially : Invariant (Ledger.start limit bufferSize))
    (step : ∀ ledger next, ledger.registry.table.Sound → Invariant ledger → ledger.Step next →
      Invariant next)
    {ledger : Ledger C} (path : Reached limit bufferSize ledger) : Invariant ledger := by
  -- The table is in order throughout, so that every step may rely on it.
  have carry : ∀ {ledger next : Ledger C}, ledger.registry.table.Sound ∧ Invariant ledger →
      next = ledger ∨ ledger.Step next → next.registry.table.Sound ∧ Invariant next := by
    intro ledger next before change
    rcases change with same | change
    · rw [same]
      exact before
    · exact ⟨change.sound before.1, step ledger next before.1 before.2 change⟩
  have both : ledger.registry.table.Sound ∧ Invariant ledger := by
    induction path with
    | start => exact ⟨SlotTable.sound_empty, initially⟩
    | enroll path channel ih => exact carry ih (.inr (enroll_step _ channel))
    | report path key seen ih => exact carry ih (report_step _ key seen)
    | release path key ih => exact carry ih (release_step _ key)
    | serveSlot path scratch farewell key ih => exact carry ih (serveSlot_step _ scratch farewell key)
  exact both.2

theorem served_andThen (ledger : Ledger C) (before : Registry.Service (Recorded C))
    (farewell : Ended (Recorded C) → List Event) (key : Nat) :
    ledger.served (before.andThen farewell key) =
      (ledger.served before).serveSlot before.scratch farewell key := by
  simp [serveSlot, served, Registry.Service.andThen]

theorem serving_zero (ledger : Ledger C) (scratch : Bytes)
    (farewell : Ended (Recorded C) → List Event) : ledger.serving scratch farewell 0 = ledger := by
  simp [serving, served, Registry.serveBelow]

theorem serving_succ (ledger : Ledger C) (scratch : Bytes)
    (farewell : Ended (Recorded C) → List Event) (bound : Nat) :
    ledger.serving scratch farewell (bound + 1) =
      (ledger.serving scratch farewell bound).serveSlot
        (ledger.registry.serveBelow scratch farewell bound).scratch farewell bound := by
  unfold serving
  rw [← served_andThen, Registry.serveBelow_succ]

theorem Reached.serving {limit bufferSize : Nat} {ledger : Ledger C}
    (path : Reached limit bufferSize ledger) (scratch : Bytes)
    (farewell : Ended (Recorded C) → List Event) (bound : Nat) :
    Reached limit bufferSize (ledger.serving scratch farewell bound) := by
  induction bound with
  | zero =>
    rw [serving_zero]
    exact path
  | succ bound ih =>
    rw [serving_succ]
    exact ih.serveSlot _ _ _

-- Where only some staging areas and some operations are let in, a run keeps what each slot's service
-- and each operation keeps.
theorem serving_invariant {Invariant : Ledger C → Prop} {Staged : Bytes → Prop} {ledger : Ledger C}
    {scratch : Bytes} {farewell : Ended (Recorded C) → List Event} (initially : Invariant ledger)
    (staged : Staged scratch)
    (step : ∀ ledger scratch key, Invariant ledger → Staged scratch →
      Invariant (ledger.serveSlot scratch farewell key) ∧
        Staged (ledger.registry.serveSlot scratch key).scratch) (bound : Nat) :
    Invariant (ledger.serving scratch farewell bound) ∧
      Staged (ledger.registry.serveBelow scratch farewell bound).scratch := by
  induction bound with
  | zero =>
    rw [serving_zero]
    exact ⟨initially, staged⟩
  | succ bound ih =>
    rw [serving_succ, Registry.serveBelow_succ]
    exact step _ _ bound ih.1 ih.2

theorem after_concat (limit bufferSize : Nat) (earlier : List (Operation C)) (operation : Operation C) :
    after limit bufferSize (earlier ++ [operation]) = (after limit bufferSize earlier).perform operation :=
  List.foldl_concat ..

theorem after_invariant {Invariant : Ledger C → Prop} {Suits : Operation C → Prop}
    {limit bufferSize : Nat} {operations : List (Operation C)}
    (initially : Invariant (start limit bufferSize))
    (step : ∀ ledger operation, Suits operation → Invariant ledger →
      Invariant (ledger.perform operation))
    (suit : ∀ operation ∈ operations, Suits operation) : Invariant (after limit bufferSize operations) := by
  induction operations using List.reverseRecOn with
  | nil => exact initially
  | append_singleton earlier operation ih =>
    have before := ih fun operation member => suit operation (List.mem_append_left _ member)
    rw [after_concat]
    exact step _ operation (suit operation (by simp)) before

theorem reached_after (limit bufferSize : Nat) (operations : List (Operation C)) :
    Reached limit bufferSize (after limit bufferSize operations) := by
  induction operations using List.reverseRecOn with
  | nil => exact .start
  | append_singleton earlier operation ih =>
    rw [after_concat]
    cases operation with
    | enroll channel => exact ih.enroll channel
    | report key seen => exact ih.report key seen
    | release key => exact ih.release key
    | serve scratch farewell => exact ih.serving scratch farewell _

end Ledger

end SecureEcho
