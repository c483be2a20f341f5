import SecureEcho.Proofs.Connection.Staging
import SecureEcho.Proofs.Registry.Custody
import SecureEcho.Proofs.Registry.Occupancy

namespace SecureEcho

namespace Turn

variable {C : Type}

def remains (turn : Turn C) : Option (Slot C) :=
  match turn.verdict with
  | .keep => some turn.slot
  | .close => none

variable [Channel C] [Closable C]

def departs (turn : Turn C) (key : Nat) : Option (Ended C) :=
  match turn.verdict with
  | .keep => none
  | .close => some ⟨key, turn.connection.close.2⟩

theorem of_departs {turn : Turn C} {key : Nat} {ended : Ended C} (departs : turn.departs key = some ended) :
    turn.verdict = .close ∧ ended = ⟨key, turn.connection.close.2⟩ := by
  unfold Turn.departs at departs
  split at departs
  · cases departs
  · cases departs
    exact ⟨‹_›, rfl⟩

end Turn

namespace Slot

variable {C : Type} [Channel C]

-- The notification of this slot and no other, with a staging area of zeros.
def alone (slot : Slot C) (room : Nat) : Turn C :=
  slot.connection.notify slot.ready (List.replicate room 0)

structure Stageable (slot : Slot C) : Prop where
  exactly : Channel.FillsExactly slot.connection.channel
  sound : slot.connection.ring.Sound

theorem Stageable.notify {slot : Slot C} (stageable : slot.Stageable) (scratch : Bytes) :
    ∃ staged, staged.length = scratch.length ∧
      slot.connection.notify slot.ready scratch = { slot.alone scratch.length with scratch := staged } :=
  Connection.notify_restaged stageable.exactly stageable.sound slot.ready (by simp)

end Slot

namespace Registry

variable {C : Type} [Channel C] {registry : Registry C} {key : Nat} {slot : Slot C}

def remaining (registry : Registry C) (room key : Nat) : Option (Slot C) :=
  (registry.get? key).bind fun slot => (slot.alone room).remains

theorem remaining_of_free (free : registry.get? key = none) (room : Nat) :
    registry.remaining room key = none := by
  rw [remaining, free, Option.bind_none]

theorem remaining_of_keep (found : registry.get? key = some slot) {room : Nat}
    (keeps : (slot.alone room).verdict = .keep) :
    registry.remaining room key = some (slot.alone room).slot := by
  simp [remaining, found, Turn.remains, keeps]

theorem remaining_of_close (found : registry.get? key = some slot) {room : Nat}
    (finished : (slot.alone room).verdict = .close) : registry.remaining room key = none := by
  simp [remaining, found, Turn.remains, finished]

theorem remaining_congr {one two : Registry C} (same : one.get? key = two.get? key) (room : Nat) :
    one.remaining room key = two.remaining room key := by
  rw [remaining, remaining, same]

variable [Closable C]

def departing (registry : Registry C) (room key : Nat) : Option (Ended C) :=
  (registry.get? key).bind fun slot => (slot.alone room).departs key

theorem departing_of_free (free : registry.get? key = none) (room : Nat) :
    registry.departing room key = none := by
  rw [departing, free, Option.bind_none]

theorem departing_of_keep (found : registry.get? key = some slot) {room : Nat}
    (keeps : (slot.alone room).verdict = .keep) : registry.departing room key = none := by
  simp [departing, found, Turn.departs, keeps]

theorem departing_of_close (found : registry.get? key = some slot) {room : Nat}
    (finished : (slot.alone room).verdict = .close) :
    registry.departing room key = some ⟨key, (slot.alone room).connection.close.2⟩ := by
  simp [departing, found, Turn.departs, finished]

theorem departing_congr {one two : Registry C} (same : one.get? key = two.get? key) (room : Nat) :
    one.departing room key = two.departing room key := by
  rw [departing, departing, same]

theorem of_departing {room : Nat} {ended : Ended C}
    (departs : registry.departing room key = some ended) :
    ∃ slot, registry.get? key = some slot ∧ (slot.alone room).verdict = .close ∧
      ended = ⟨key, (slot.alone room).connection.close.2⟩ := by
  obtain ⟨slot, found, departs⟩ := Option.bind_eq_some_iff.mp departs
  exact ⟨slot, found, Turn.of_departs departs⟩

structure ServesAlone (before : Registry C) (room key : Nat) (service : Service C) : Prop where
  sized : service.scratch.length = room
  get?_eq : ∀ other, service.registry.get? other =
    if other = key then before.remaining room key else before.get? other
  ended : service.ended = (before.departing room key).toList

theorem servesAlone
    (stageable : ∀ slot, registry.get? key = some slot → slot.Stageable) (scratch : Bytes) :
    ServesAlone registry scratch.length key (registry.serveSlot scratch key) := by
  cases found : registry.get? key with
  | none =>
    rw [serveSlot_of_free found]
    refine ⟨rfl, fun other => ?_, by rw [departing_of_free found]; rfl⟩
    split
    · rename_i same
      rw [same, found, remaining_of_free found]
    · rfl
  | some slot =>
    obtain ⟨staged, length, turn⟩ := (stageable slot found).notify scratch
    have turned := Connection.notify_exact.mp turn
    cases verdict : (slot.alone scratch.length).verdict with
    | keep =>
      rw [serveSlot_of_keep found turned verdict]
      refine ⟨length, fun other => ?_, by rw [departing_of_keep found verdict]; rfl⟩
      rw [remaining_of_keep found verdict]
      exact SlotTable.get?_update found _ other
    | close =>
      rw [serveSlot_of_close found turned verdict, vacate, updateThrottle_eq]
      refine ⟨length, fun other => ?_, by rw [departing_of_close found verdict]; rfl⟩
      rw [remaining_of_close found verdict]
      exact SlotTable.get?_erase found other

-- The invariant of a service: the slots below the bound are as they are to be, the others as they were.
structure Halfway (before : Registry C) (room bound : Nat) (service : Service C) : Prop where
  sized : service.scratch.length = room
  behind : ∀ key < bound, service.registry.get? key = before.remaining room key
  ahead : ∀ key, bound ≤ key → service.registry.get? key = before.get? key
  ended : service.ended = (List.range bound).filterMap (before.departing room)

theorem Halfway.serves {before : Registry C} {room bound : Nat} {service : Service C}
    (halfway : before.Halfway room bound service)
    (stageable : ∀ key slot, before.get? key = some slot → slot.Stageable) :
    ServesAlone service.registry room bound (service.registry.serveSlot service.scratch bound) ∧
      (service.registry.serveSlot service.scratch bound).ended =
        (before.departing room bound).toList := by
  obtain ⟨rfl, -, ahead, -⟩ := halfway
  have here := ahead bound (Nat.le_refl bound)
  have served := servesAlone (fun slot found => stageable bound slot (here ▸ found)) service.scratch
  exact ⟨served, departing_congr here _ ▸ served.ended⟩

theorem Halfway.andThen {before : Registry C} {room bound : Nat} {service : Service C}
    (halfway : before.Halfway room bound service)
    (stageable : ∀ key slot, before.get? key = some slot → slot.Stageable)
    (farewell : Ended C → List Event) :
    before.Halfway room (bound + 1) (service.andThen farewell bound) := by
  obtain ⟨served, departed⟩ := halfway.serves stageable
  obtain ⟨-, behind, ahead, ended⟩ := halfway
  have here := ahead bound (Nat.le_refl bound)
  refine ⟨served.sized, ?_, ?_, ?_⟩
  · intro key below
    refine (served.get?_eq key).trans ?_
    split
    · rename_i same
      rw [same]
      exact remaining_congr here room
    · exact behind key (by omega)
  · intro key above
    refine (served.get?_eq key).trans ?_
    rw [if_neg (by omega)]
    exact ahead key (by omega)
  · have appended : (service.andThen farewell bound).ended = service.ended ++ _ :=
      congrArg (service.ended ++ ·) departed
    rw [appended, ended, List.range_succ, List.filterMap_append]
    cases departs : before.departing room bound <;> simp [departs]

theorem halfway_serveBelow
    (stageable : ∀ key slot, registry.get? key = some slot → slot.Stageable) (scratch : Bytes)
    (farewell : Ended C → List Event) (bound : Nat) :
    registry.Halfway scratch.length bound (registry.serveBelow scratch farewell bound) := by
  induction bound with
  | zero => exact ⟨rfl, fun key below => absurd below (Nat.not_lt_zero key), fun key _ => rfl, rfl⟩
  | succ bound ih =>
    rw [serveBelow_succ]
    exact ih.andThen stageable farewell

theorem throttled_serveSlot {scratch : Bytes}
    (some : (registry.serveSlot scratch key).ended ≠ []) :
    (registry.serveSlot scratch key).registry.throttled =
      !(registry.serveSlot scratch key).registry.hasFreeSlot := by
  cases found : registry.get? key with
  | none => simp [serveSlot_of_free found] at some
  | some slot =>
    have turned := slot.connection.turned_notify slot.ready scratch
    cases verdict : (slot.connection.notify slot.ready scratch).verdict with
    | keep => simp [serveSlot_of_keep found turned verdict] at some
    | close =>
      rw [serveSlot_of_close found turned verdict, vacate, updateThrottle_eq]
      rfl

-- What is done at a farewell has no part in the rest of the service.
theorem serveBelow_silent (registry : Registry C) (scratch : Bytes) (farewell : Ended C → List Event)
    (bound : Nat) :
    (registry.serveBelow scratch farewell bound).registry =
        (registry.serveBelow scratch (fun _ => []) bound).registry ∧
      (registry.serveBelow scratch farewell bound).scratch =
        (registry.serveBelow scratch (fun _ => []) bound).scratch := by
  induction bound with
  | zero => exact ⟨rfl, rfl⟩
  | succ bound ih =>
    rw [serveBelow_succ, serveBelow_succ]
    unfold Service.andThen
    rw [ih.1, ih.2]
    exact ⟨rfl, rfl⟩

theorem events_serveBelow
    (stageable : ∀ key slot, registry.get? key = some slot → slot.Stageable) (scratch : Bytes) :
    ∃ log : Nat → List Event, ∀ farewell bound, (registry.serveBelow scratch farewell bound).events =
      (List.range bound).flatMap fun key =>
        log key ++ (registry.departing scratch.length key).toList.flatMap farewell := by
  -- The log of a slot is that of a service without farewells, so it is the same for all of them.
  let silent (key : Nat) : Service C := registry.serveBelow scratch (fun _ => []) key
  refine ⟨fun key => ((silent key).registry.serveSlot (silent key).scratch key).events, ?_⟩
  intro farewell bound
  induction bound with
  | zero => rfl
  | succ bound ih =>
    have departed := ((halfway_serveBelow stageable scratch (fun _ => []) bound).serves stageable).2
    obtain ⟨same, staged⟩ := serveBelow_silent registry scratch farewell bound
    rw [serveBelow_succ, List.range_succ, List.flatMap_append, ← ih, List.flatMap_singleton]
    unfold Service.andThen
    rw [same, staged, ← departed]
    exact List.append_assoc _ _ _

structure ServedApart (before : Registry (Recorded C)) (scratch : Bytes)
    (farewell : Ended (Recorded C) → List Event) : Prop where
  kept : ∀ key slot, before.get? key = some slot → (slot.alone scratch.length).verdict = .keep →
    (before.serveAll scratch farewell).registry.get? key = some (slot.alone scratch.length).slot
  vacated : ∀ key slot, before.get? key = some slot → (slot.alone scratch.length).verdict = .close →
    (before.serveAll scratch farewell).registry.get? key = none
  free : ∀ key, before.get? key = none → (before.serveAll scratch farewell).registry.get? key = none
  ended_iff : ∀ ended, ended ∈ (before.serveAll scratch farewell).ended ↔
    ∃ slot, before.get? ended.key = some slot ∧ (slot.alone scratch.length).verdict = .close ∧
      ended.channel = (slot.alone scratch.length).connection.close.2
  ascending : ((before.serveAll scratch farewell).ended.map Ended.key).Pairwise (· < ·)
  closed : ∀ ended ∈ (before.serveAll scratch farewell).ended, ended.channel.ClosedOnce
  released : ∀ ended ∈ (before.serveAll scratch farewell).ended,
    let there := (before.serveBelow scratch farewell (ended.key + 1)).registry
    there.get? ended.key = none ∧ there.throttled = !there.hasFreeSlot

theorem servedApart {registry : Registry (Recorded C)}
    (stageable : ∀ key slot, registry.get? key = some slot → slot.Stageable)
    (inside : ∀ key slot, registry.get? key = some slot → key < registry.limit)
    (unclosed : ∀ key slot, registry.get? key = some slot → slot.connection.channel.Unclosed)
    (scratch : Bytes) (farewell : Ended (Recorded C) → List Event) :
    registry.ServedApart scratch farewell := by
  have halfway := halfway_serveBelow stageable scratch farewell
  have whole : registry.Halfway scratch.length registry.limit (registry.serveAll scratch farewell) :=
    halfway registry.limit
  have departed : ∀ ended ∈ (registry.serveAll scratch farewell).ended,
      registry.departing scratch.length ended.key = some ended := by
    intro ended member
    rw [whole.ended] at member
    obtain ⟨key, -, departs⟩ := List.mem_filterMap.mp member
    obtain ⟨slot, -, -, rfl⟩ := of_departing departs
    exact departs
  constructor
  · intro key slot found keeps
    rw [whole.behind key (inside key slot found), remaining_of_keep found keeps]
  · intro key slot found finished
    rw [whole.behind key (inside key slot found), remaining_of_close found finished]
  · intro key free
    rcases Nat.lt_or_ge key registry.limit with below | above
    · rw [whole.behind key below, remaining_of_free free]
    · exact (whole.ahead key above).trans free
  · intro ended
    constructor
    · intro member
      obtain ⟨slot, found, finished, same⟩ := of_departing (departed ended member)
      exact ⟨slot, found, finished, congrArg Ended.channel same⟩
    · rintro ⟨slot, found, finished, channel⟩
      rw [whole.ended]
      refine List.mem_filterMap.mpr ⟨ended.key, List.mem_range.mpr (inside _ slot found), ?_⟩
      rw [departing_of_close found finished, ← channel]
  · rw [whole.ended, List.pairwise_map]
    refine List.pairwise_lt_range.filterMap _ fun one two less first here second there => ?_
    obtain ⟨-, -, -, rfl⟩ := of_departing here
    obtain ⟨-, -, -, rfl⟩ := of_departing there
    exact less
  · intro ended member
    obtain ⟨slot, found, -, same⟩ := of_departing (departed ended member)
    have turned := slot.connection.turned_notify slot.ready (List.replicate scratch.length 0)
    obtain ⟨made, spent⟩ := turned.spent
    rw [same]
    exact Connection.close_closedOnce (spent.unclosed (unclosed _ slot found))
  · intro ended member
    have departs := departed ended member
    obtain ⟨slot, found, finished, -⟩ := of_departing departs
    refine ⟨?_, ?_⟩
    · rw [(halfway (ended.key + 1)).behind _ (Nat.lt_succ_self _), remaining_of_close found finished]
    · have departed := ((halfway ended.key).serves stageable).2
      rw [departs] at departed
      rw [serveBelow_succ]
      exact throttled_serveSlot (by simp [departed])

end Registry

namespace Ledger

variable {C : Type} [Channel C] [Closable C]

def RingsSound (ledger : Ledger C) : Prop :=
  ∀ key slot, ledger.registry.get? key = some slot → slot.connection.ring.Sound

theorem RingsSound.step {ledger next : Ledger C} (table : ledger.registry.table.Sound)
    (sound : ledger.RingsSound) (step : ledger.Step next) : next.RingsSound := by
  cases step with
  | enrolled channel free =>
    intro key slot there
    rcases table.of_get?_insert there with ⟨-, rfl⟩ | before
    · exact Ring.sound_ofCapacity _
    · exact sound key slot before
  | declined channel full => exact sound
  | @reported key slot found seen =>
    intro other rival there
    rcases SlotTable.of_get?_update found there with ⟨-, rfl⟩ | ⟨-, before⟩
    · exact sound key slot found
    · exact sound other rival before
  | @kept events key slot scratch turn found turned kept =>
    intro other rival there
    rcases SlotTable.of_get?_update found there with ⟨-, rfl⟩ | ⟨-, before⟩
    · exact turned.sound (sound key slot found)
    · exact sound other rival before
  | closed found last =>
    intro other rival there
    exact sound other rival (SlotTable.of_get?_erase found there).2

theorem Reached.ringsSound {limit bufferSize : Nat} {ledger : Ledger C}
    (path : Reached limit bufferSize ledger) : ledger.RingsSound := by
  refine path.invariant ?_ fun _ _ table sound => sound.step table
  intro key slot found
  cases found

-- On whatever pattern of slots a run has left, one service of the whole table does to each slot what
-- its own notification would do with a fresh staging area; and a connection that ends is bidden
-- farewell once, in the order of the keys, when its slot is free again.
theorem service_is_each_slot_alone (limit bufferSize : Nat) (operations : List (Operation C))
    (scratch : Bytes)
    (exactly : ∀ key slot, (after limit bufferSize operations).registry.get? key = some slot →
      Channel.FillsExactly slot.connection.channel.channel) :
    let before := (after limit bufferSize operations).registry
    (∀ farewell, before.ServedApart scratch farewell) ∧
      ∃ log : Nat → List Event, ∀ farewell, (before.serveAll scratch farewell).events =
        (List.range limit).flatMap fun key =>
          log key ++ (before.departing scratch.length key).toList.flatMap farewell := by
  intro before
  have path := reached_after limit bufferSize operations
  have chronicled := chronicled_after limit bufferSize operations
  have limit_eq : before.limit = limit := chronicled.limit_eq
  have stageable : ∀ key slot, before.get? key = some slot → slot.Stageable :=
    fun key slot found => ⟨(exactly key slot found).recorded, path.ringsSound key slot found⟩
  have inside : ∀ key slot, before.get? key = some slot → key < before.limit :=
    fun key slot found => limit_eq ▸ chronicled.inOrder.occupied_lt key slot found
  have unclosed : ∀ key slot, before.get? key = some slot → slot.connection.channel.Unclosed :=
    fun key slot found => (path.custody.live key slot found).2
  obtain ⟨log, events⟩ := Registry.events_serveBelow stageable scratch
  refine ⟨Registry.servedApart stageable inside unclosed scratch, log, fun farewell => ?_⟩
  rw [← limit_eq]
  exact events farewell before.limit

-- Slot 2 is free; the first connection stores what it reads, the second is hung up on, and the last
-- one meets the end of its stream.
theorem service_is_each_slot_alone_around_hole :
    let readable : Readiness := .ofDirection .read
    let operations : List (Operation Scripted) :=
      [.enroll { arrivals := [.data [1, 2]] }, .enroll {}, .enroll {}, .enroll { arrivals := [.data []] },
        .release 2, .report 0 readable, .report 1 .onHangup, .report 3 readable]
    let before := (after 4 8 operations).registry
    let farewell (ended : Ended (Recorded Scripted)) : List Event := [.connectionReleased ended.key ""]
    let service := before.serveAll [9, 9, 9] farewell
    (∀ key slot, before.get? key = some slot →
        Channel.FillsExactly slot.connection.channel.channel) ∧
      before.ServedApart [9, 9, 9] farewell ∧
      service.ended.map (fun ended => (ended.key, ended.channel.calls)) =
        [(1, [.close .finished]), (3, [.read 3 (.progressed 0) [], .close .finished])] ∧
      (service.registry.get? 0).map (fun slot => (slot.connection.phase, slot.connection.ring.contents)) =
        some (.writing, [1, 2]) := by
  intro readable operations before farewell service
  have exactly : ∀ key slot, before.get? key = some slot →
      Channel.FillsExactly slot.connection.channel.channel :=
    fun _ slot _ => Scripted.fillsExactly slot.connection.channel.channel
  have apart := (service_is_each_slot_alone 4 8 operations [9, 9, 9] exactly).1
  exact ⟨exactly, apart farewell, by decide +kernel, by decide +kernel⟩

end Ledger

end SecureEcho
