import SecureEcho.Proofs.Connection.Balance
import SecureEcho.Proofs.Registry.Custody

namespace SecureEcho

def Event.isClosing : Event → Bool
  | .connectionClosed .. => true
  | _ => false

theorem Event.closings_of_told {events : List Event} (told : ∀ event ∈ events, event.ofConnection = true) :
    events.filter Event.isClosing = [] := by
  refine Event.filter_eq_nil_of_told told fun event own => ?_
  cases event with
  | connectionClosed => cases own
  | _ => rfl

def Ended.account {C : Type} (ended : Ended (Recorded C)) : Event :=
  let owed := ended.channel.delivered.length - ended.channel.transmitted.length
  .connectionClosed ended.key (if 0 < owed then .writing else .reading) owed

def Operation.Suits {C : Type} (Good : C → Prop) (room : Nat) : Operation C → Prop
  | .enroll channel => Good channel
  | .serve scratch farewell =>
    scratch.length = room ∧ ∀ ended, (farewell ended).filter Event.isClosing = []
  | .report .. | .release _ => True

namespace Registry

variable {C : Type}

theorem closings_updateThrottle (registry : Registry C) :
    registry.updateThrottle.1.filter Event.isClosing = [] := by
  unfold updateThrottle
  dsimp only
  split
  · rfl
  · split <;> rfl

end Registry

namespace Connection

variable {C : Type} [Channel C] [Closable C]

theorem Balanced.account {Good : C → Prop} {room bufferSize : Nat} {connection : Connection (Recorded C)}
    (balanced : connection.Balanced Good room bufferSize) (key : Nat) :
    Ended.account ⟨key, connection.close.2⟩ =
      .connectionClosed key connection.phase connection.buffered := by
  obtain ⟨delivered, transmitted⟩ := connection.moved_close
  have sound := balanced.echoing.sound
  have owed := balanced.buffered_eq
  unfold Ended.account
  rw [delivered, transmitted, ← owed]
  cases phase : connection.phase with
  | reading =>
    have none : connection.buffered = 0 := balanced.length_eq_zero phase
    simp [none]
  | writing =>
    have some : 0 < connection.buffered := sound.length_pos (balanced.writing_iff.mp phase)
    simp [some]

end Connection

namespace Ledger

variable {C : Type}

structure Accounted (Good : C → Prop) (room bufferSize : Nat) (ledger : Ledger C) : Prop where
  sound : ledger.registry.table.Sound
  bufferSize_eq : ledger.registry.bufferSize = bufferSize
  live : ∀ key slot, ledger.registry.get? key = some slot →
    slot.connection.Balanced Good room bufferSize
  ended : ∀ ended ∈ ledger.ended, ended.channel.transmitted <+: ended.channel.delivered
  logged : ledger.events.filter Event.isClosing = ledger.ended.map Ended.account

variable {Good : C → Prop} {room bufferSize : Nat} {ledger : Ledger C}

theorem accounted_start (limit : Nat) : (start limit bufferSize).Accounted Good room bufferSize where
  sound := SlotTable.sound_empty
  bufferSize_eq := rfl
  live key slot found := by cases found
  ended ended member := by cases member
  logged := rfl

theorem Accounted.enroll (accounted : ledger.Accounted Good room bufferSize) {channel : C}
    (good : Good channel) : (ledger.enroll channel).Accounted Good room bufferSize := by
  obtain ⟨sound, bufferSize_eq, live, ended, logged⟩ := accounted
  unfold Ledger.enroll
  cases free : ledger.registry.hasFreeSlot with
  | true =>
    rw [Registry.enroll_of_room free]
    simp only [Registry.updateThrottle_eq]
    refine ⟨sound.insert _, bufferSize_eq, ?_, ended, ?_⟩
    · intro key slot there
      rcases sound.of_get?_insert there with ⟨-, rfl⟩ | before
      · rw [bufferSize_eq]
        exact Connection.balanced_new good ledger.offered
      · exact live key slot before
    · rw [List.filter_append, Registry.closings_updateThrottle, List.append_nil, logged]
  | false =>
    rw [Registry.enroll_of_full free]
    simp only [Registry.updateThrottle_eq]
    refine ⟨sound, bufferSize_eq, live, ended, ?_⟩
    rw [List.filter_append, Registry.closings_updateThrottle, List.append_nil, logged]

theorem Accounted.report (accounted : ledger.Accounted Good room bufferSize) (key : Nat)
    (seen : Readiness) : (ledger.report key seen).Accounted Good room bufferSize := by
  obtain ⟨sound, bufferSize_eq, live, ended, logged⟩ := accounted
  unfold Ledger.report Registry.report
  cases found : ledger.registry.get? key with
  | none => exact ⟨sound, bufferSize_eq, live, ended, logged⟩
  | some slot =>
    refine ⟨sound.update found _, bufferSize_eq, ?_, ended, logged⟩
    intro other rival there
    rcases SlotTable.of_get?_update found there with ⟨-, rfl⟩ | ⟨-, before⟩
    · exact live key slot found
    · exact live other rival before

variable [Channel C] [Closable C]

theorem Accounted.closed (accounted : ledger.Accounted Good room bufferSize) {key : Nat}
    {slot : Slot (Recorded C)} (found : ledger.registry.get? key = some slot)
    {connection : Connection (Recorded C)} (balanced : connection.Balanced Good room bufferSize)
    {events : List Event}
    (entry : events.filter Event.isClosing =
      [.connectionClosed key connection.phase connection.buffered]) :
    Accounted Good room bufferSize
      { ledger with
        registry := (ledger.registry.vacate key).2
        ended := ledger.ended ++ [⟨key, connection.close.2⟩]
        events := ledger.events ++ events } := by
  obtain ⟨sound, bufferSize_eq, live, ended, logged⟩ := accounted
  unfold Registry.vacate
  rw [Registry.updateThrottle_eq]
  refine ⟨sound.erase found, bufferSize_eq, ?_, ?_, ?_⟩
  · intro other rival there
    exact live other rival (SlotTable.of_get?_erase found there).2
  · intro one member
    rcases List.mem_append.mp member with old | new
    · exact ended one old
    · obtain ⟨delivered, transmitted⟩ := connection.moved_close
      rw [List.mem_singleton.mp new, delivered, transmitted]
      exact ⟨_, balanced.echoing.conserved⟩
  · rw [List.filter_append, logged, entry, List.map_append, List.map_singleton, balanced.account]

theorem closings_close (connection : Connection (Recorded C)) (registry : Registry (Recorded C))
    (key : Nat) :
    (connection.close.1 ++ (registry.vacate key).1 ++
        [Event.connectionClosed key connection.phase connection.buffered]).filter Event.isClosing =
      [.connectionClosed key connection.phase connection.buffered] := by
  have retries : connection.close.1.filter Event.isClosing = [] :=
    Event.closings_of_told (Connection.told_closeWithin connection.channel _ 0)
  have change : (registry.vacate key).1.filter Event.isClosing = [] :=
    Registry.closings_updateThrottle _
  rw [List.filter_append, List.filter_append, retries, change]
  rfl

theorem Accounted.release (accounted : ledger.Accounted Good room bufferSize) (key : Nat) :
    (ledger.release key).Accounted Good room bufferSize := by
  cases found : ledger.registry.get? key with
  | none =>
    rw [release_of_free found]
    exact accounted
  | some slot =>
    rw [release_of_found found]
    exact accounted.closed found (accounted.live key slot found) (closings_close _ _ key)

theorem Accounted.serveSlot (honest : Channel.Honest Good) (positive : 0 < room)
    (fits : room ≤ bufferSize) (accounted : ledger.Accounted Good room bufferSize) {scratch : Bytes}
    (sized : scratch.length = room) {farewell : Ended (Recorded C) → List Event}
    (silent : ∀ ended, (farewell ended).filter Event.isClosing = []) (key : Nat) :
    (ledger.serveSlot scratch farewell key).Accounted Good room bufferSize ∧
      (ledger.registry.serveSlot scratch key).scratch.length = room := by
  cases found : ledger.registry.get? key with
  | none =>
    rw [serveSlot_of_free found, Registry.serveSlot_of_free found]
    exact ⟨accounted, sized⟩
  | some slot =>
    have turned := slot.connection.turned_notify slot.ready scratch
    obtain ⟨balanced, length⟩ :=
      (accounted.live key slot found).turned (honest.within room) positive fits sized turned
    cases verdict : (slot.connection.notify slot.ready scratch).verdict with
    | keep =>
      rw [serveSlot_of_keep found turned verdict, Registry.serveSlot_of_keep found turned verdict]
      obtain ⟨sound, bufferSize_eq, live, ended, logged⟩ := accounted
      refine ⟨⟨sound.update found _, bufferSize_eq, ?_, ended, ?_⟩, length⟩
      · intro other rival there
        rcases SlotTable.of_get?_update found there with ⟨-, rfl⟩ | ⟨-, before⟩
        · exact balanced
        · exact live other rival before
      · rw [List.filter_append, Event.closings_of_told turned.told, List.append_nil, logged]
    | close =>
      rw [serveSlot_of_close found turned verdict, Registry.serveSlot_of_close found turned verdict]
      refine ⟨accounted.closed found balanced ?_, length⟩
      rw [List.filter_append, List.filter_append, Event.closings_of_told turned.told, closings_close,
        silent]
      rfl

theorem Accounted.serving (honest : Channel.Honest Good) (positive : 0 < room)
    (fits : room ≤ bufferSize) (accounted : ledger.Accounted Good room bufferSize) {scratch : Bytes}
    {farewell : Ended (Recorded C) → List Event}
    (suits : (Operation.serve scratch farewell).Suits Good room) (bound : Nat) :
    (ledger.serving scratch farewell bound).Accounted Good room bufferSize := by
  obtain ⟨sized, silent⟩ := suits
  exact (serving_invariant accounted sized (fun _ _ key accounted sized =>
    accounted.serveSlot honest positive fits sized silent key) bound).1

theorem Accounted.perform (honest : Channel.Honest Good) (positive : 0 < room)
    (fits : room ≤ bufferSize) (accounted : ledger.Accounted Good room bufferSize)
    {operation : Operation C} (suits : operation.Suits Good room) :
    (ledger.perform operation).Accounted Good room bufferSize := by
  cases operation with
  | enroll channel => exact accounted.enroll suits
  | report key seen => exact accounted.report key seen
  | release key => exact accounted.release key
  | serve scratch farewell => exact accounted.serving honest positive fits suits _

-- At every moment of a run, the middle of a service included, each channel ever offered has sent a
-- beginning of what it received; and the log has one entry for each closed one, in the order of their
-- ends, with what the channel owed.
theorem sent_prefix_and_closings_logged (honest : Channel.Honest Good) (limit : Nat)
    (positive : 0 < room) (fits : room ≤ bufferSize) {operations : List (Operation C)}
    (suit : ∀ operation ∈ operations, operation.Suits Good room) {scratch : Bytes}
    {farewell : Ended (Recorded C) → List Event}
    (last : (Operation.serve scratch farewell).Suits Good room) (bound : Nat) :
    let ledger := (after limit bufferSize operations).serving scratch farewell bound
    (ledger.records.map Recorded.serial).Perm (List.range ledger.offered) ∧
      (∀ record ∈ ledger.records, record.transmitted <+: record.delivered) ∧
      ledger.events.filter Event.isClosing = ledger.ended.map Ended.account := by
  intro ledger
  have custody := ((reached_after limit bufferSize operations).serving scratch farewell bound).custody
  have start : (start limit bufferSize).Accounted Good room bufferSize := accounted_start limit
  have accounted := (after_invariant start
    (fun _ _ suits accounted => accounted.perform honest positive fits suits) suit).serving honest
      positive fits last bound
  refine ⟨custody.once, ?_, accounted.logged⟩
  intro record member
  unfold records at member
  rcases List.mem_append.mp member with inside | out
  · rcases List.mem_append.mp inside with back | live
    · obtain ⟨declined, among, rfl⟩ := List.mem_map.mp back
      unfold Recorded.transmitted
      rw [(custody.untouched declined among).2]
      exact List.nil_prefix
    · obtain ⟨slot, among, rfl⟩ := List.mem_map.mp live
      obtain ⟨key, found⟩ := SlotTable.mem_values.mp among
      exact ⟨_, (accounted.live key slot found).echoing.conserved⟩
  · obtain ⟨ended, among, rfl⟩ := List.mem_map.mp out
    exact accounted.ended ended among

-- The first channel is hung up on while it owes a byte; the second takes its key and pays in full.
theorem closings_logged_after_hangup_and_reuse :
    let both : Readiness := ⟨true, true, false⟩
    let serve : Operation Scripted := .serve [0, 0] fun _ => []
    let operations : List (Operation Scripted) :=
      [.enroll { arrivals := [.data [1, 2, 3]], uptakes := [.atMost 1] }, .report 0 both, serve, serve,
        .report 0 .onHangup, serve, .enroll { arrivals := [.data [4]] }, .report 0 both, serve, serve,
        .release 0]
    let ledger := (after 1 2 operations).serving [0, 0] (fun _ => []) 1
    Channel.Honest Scripted.Plain ∧ (∀ operation ∈ operations, operation.Suits Scripted.Plain 2) ∧
      serve.Suits Scripted.Plain 2 ∧
      ledger.records.map Recorded.transmitted = [[1], [4]] ∧
      (∀ record ∈ ledger.records, record.transmitted <+: record.delivered) ∧
      ledger.events.filter Event.isClosing =
        [.connectionClosed 0 .writing 1, .connectionClosed 0 .reading 0] := by
  intro both serve operations ledger
  have serves : serve.Suits Scripted.Plain 2 := ⟨rfl, fun _ => rfl⟩
  have suit : ∀ operation ∈ operations, operation.Suits Scripted.Plain 2 := by
    simp [operations, serve, Operation.Suits, Scripted.Plain]
  have sent : ledger.records.map Recorded.transmitted = [[1], [4]] := by decide +kernel
  have accounts : ledger.ended.map Ended.account =
      [.connectionClosed 0 .writing 1, .connectionClosed 0 .reading 0] := by decide +kernel
  obtain ⟨-, ahead, logged⟩ := sent_prefix_and_closings_logged Scripted.honest_plain 1 (by decide)
    (Nat.le_refl 2) suit serves 1
  exact ⟨Scripted.honest_plain, suit, serves, sent, ahead, logged.trans accounts⟩

end Ledger

end SecureEcho
