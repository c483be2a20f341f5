import SecureEcho.Channel
import SecureEcho.Proofs.Connection.Closing
import SecureEcho.Proofs.Connection.Supply
import SecureEcho.Proofs.Registry.Ledger

namespace SecureEcho

open scoped List

theorem Connection.Spent.unclosed {C : Type} {connection : Connection (Recorded C)} {ready : Readiness}
    {turn : Turn (Recorded C)} {made : List Call} (spent : connection.Spent ready turn made)
    (before : connection.channel.Unclosed) : turn.connection.channel.Unclosed := by
  intro call member
  rw [spent.calls] at member
  rcases List.mem_append.mp member with old | new
  · exact before call old
  · exact spent.open_calls call new

namespace SlotTable

variable {C : Type}

def serials (table : SlotTable (Slot (Recorded C))) : List Nat :=
  table.values.map fun slot => slot.connection.channel.serial

theorem Sound.serials_insert {table : SlotTable (Slot (Recorded C))} (sound : table.Sound)
    (slot : Slot (Recorded C)) :
    (table.insert slot).serials.Perm (slot.connection.channel.serial :: table.serials) :=
  (sound.values_insert_perm slot).map _

theorem serials_update {table : SlotTable (Slot (Recorded C))} {key : Nat} {old : Slot (Recorded C)}
    (found : table.get? key = some old) (slot : Slot (Recorded C))
    (same : slot.connection.channel.serial = old.connection.channel.serial) :
    (table.update key slot).serials.Perm table.serials := by
  have moved := (values_update_perm found slot).map fun slot => slot.connection.channel.serial
  rw [List.map_cons, List.map_cons, same] at moved
  exact moved.cons_inv

theorem serials_erase {table : SlotTable (Slot (Recorded C))} {key : Nat} {old : Slot (Recorded C)}
    (found : table.get? key = some old) :
    (old.connection.channel.serial :: (table.erase key).serials).Perm table.serials :=
  (values_erase_perm found).map fun slot : Slot (Recorded C) => slot.connection.channel.serial

end SlotTable

namespace Ledger

variable {C : Type}

-- Every channel there is an account of: handed back, live, or handed out.
def records (ledger : Ledger C) : List (Recorded C) :=
  ledger.declined.map Declined.channel ++ ledger.registry.channels ++ ledger.ended.map Ended.channel

-- `once` and `answered` range over everything that was offered: each channel is in one place, and
-- each offer was either declined or given a key.
structure Custody (ledger : Ledger C) : Prop where
  once : (ledger.records.map Recorded.serial).Perm (List.range ledger.offered)
  answered : (ledger.declined.map Declined.offer ++ ledger.placed.map Placement.serial).Perm
    (List.range ledger.offered)
  untouched : ∀ declined ∈ ledger.declined,
    declined.channel.serial = declined.offer ∧ declined.channel.calls = []
  live : ∀ key slot, ledger.registry.get? key = some slot →
    ⟨slot.connection.channel.serial, key⟩ ∈ ledger.placed ∧ slot.connection.channel.Unclosed
  closed : ∀ ended ∈ ledger.ended,
    ⟨ended.channel.serial, ended.key⟩ ∈ ledger.placed ∧ ended.channel.ClosedOnce

theorem map_serial_records (ledger : Ledger C) :
    ledger.records.map Recorded.serial =
      ledger.declined.map (fun declined => declined.channel.serial) ++ ledger.registry.table.serials ++
        ledger.ended.map fun ended => ended.channel.serial := by
  simp [records, Registry.channels, SlotTable.serials, Function.comp_def]

theorem custody_start (limit bufferSize : Nat) : (start (C := C) limit bufferSize).Custody where
  once := .nil
  answered := .nil
  untouched declined member := by cases member
  live key slot found := by cases found
  closed ended member := by cases member

theorem Custody.silent {ledger : Ledger C} (custody : ledger.Custody) {record : Recorded C}
    (member : record ∈ ledger.records) {before later : List Call}
    (calls : record.calls = before ++ .close .finished :: later) : later = [] := by
  unfold records at member
  rcases List.mem_append.mp member with inside | out
  · rcases List.mem_append.mp inside with back | live
    · obtain ⟨declined, among, rfl⟩ := List.mem_map.mp back
      rw [(custody.untouched declined among).2] at calls
      simp at calls
    · obtain ⟨slot, among, rfl⟩ := List.mem_map.mp live
      obtain ⟨key, found⟩ := SlotTable.mem_values.mp among
      exact (custody.live key slot found).2.last calls
  · obtain ⟨ended, among, rfl⟩ := List.mem_map.mp out
    exact (custody.closed ended among).2.last calls

theorem perm_declined {front back : List Nat} {offered : Nat}
    (once : (front ++ back).Perm (List.range offered)) :
    (front ++ [offered] ++ back).Perm (List.range (offered + 1)) := by
  calc front ++ [offered] ++ back
    _ = front ++ offered :: back := List.append_assoc _ _ _
    _ ~ offered :: (front ++ back) := List.perm_middle
    _ ~ front ++ back ++ [offered] := (List.perm_append_singleton offered _).symm
    _ ~ List.range offered ++ [offered] := once.append_right [offered]
    _ = List.range (offered + 1) := List.range_succ.symm

theorem perm_enrolled {declined live next ended : List Nat} {offered : Nat}
    (once : (declined ++ live ++ ended).Perm (List.range offered))
    (entered : next.Perm (offered :: live)) :
    (declined ++ next ++ ended).Perm (List.range (offered + 1)) := by
  rw [List.append_assoc] at once
  calc declined ++ next ++ ended
    _ ~ declined ++ (offered :: live) ++ ended := (entered.append_left declined).append_right ended
    _ = declined ++ [offered] ++ (live ++ ended) := by simp
    _ ~ List.range (offered + 1) := perm_declined once

theorem perm_closed {declined live next ended : List Nat} {offered serial : Nat}
    (once : (declined ++ live ++ ended).Perm (List.range offered))
    (left : (serial :: next).Perm live) :
    (declined ++ next ++ (ended ++ [serial])).Perm (List.range offered) := by
  have moved : (next ++ (ended ++ [serial])).Perm (serial :: next ++ ended) := by
    rw [← List.append_assoc]
    exact List.perm_append_singleton serial _
  calc declined ++ next ++ (ended ++ [serial])
    _ = declined ++ (next ++ (ended ++ [serial])) := List.append_assoc _ _ _
    _ ~ declined ++ (serial :: next ++ ended) := moved.append_left declined
    _ ~ declined ++ (live ++ ended) := (left.append_right ended).append_left declined
    _ = declined ++ live ++ ended := (List.append_assoc _ _ _).symm
    _ ~ List.range offered := once

theorem last_unclosed [Channel C] {slot : Slot (Recorded C)} {connection : Connection (Recorded C)}
    (unclosed : slot.connection.channel.Unclosed)
    (last : connection = slot.connection ∨ ∃ scratch turn,
      slot.connection.Turned slot.ready scratch turn ∧ turn.connection = connection) :
    connection.channel.serial = slot.connection.channel.serial ∧ connection.channel.Unclosed := by
  rcases last with rfl | ⟨scratch, turn, turned, rfl⟩
  · exact ⟨rfl, unclosed⟩
  · obtain ⟨made, spent⟩ := turned.spent
    exact ⟨spent.serial, spent.unclosed unclosed⟩

variable [Channel C] [Closable C]

theorem Custody.step {ledger next : Ledger C} (sound : ledger.registry.table.Sound)
    (custody : ledger.Custody) (step : ledger.Step next) : next.Custody := by
  obtain ⟨once, answered, untouched, live, closed⟩ := custody
  rw [map_serial_records] at once
  cases step with
  | enrolled channel free =>
    refine ⟨?_, ?_, untouched, ?_, ?_⟩
    · rw [map_serial_records]
      exact perm_enrolled once (sound.serials_insert _)
    · rw [List.range_succ, List.map_append, ← List.append_assoc]
      exact answered.append_right _
    · intro key slot there
      rcases sound.of_get?_insert there with ⟨rfl, rfl⟩ | before
      · exact ⟨List.mem_append_right _ (List.mem_singleton.mpr rfl), fun call member => by cases member⟩
      · obtain ⟨placed, unclosed⟩ := live key slot before
        exact ⟨List.mem_append_left _ placed, unclosed⟩
    · intro ended member
      obtain ⟨placed, once⟩ := closed ended member
      exact ⟨List.mem_append_left _ placed, once⟩
  | declined channel full =>
    refine ⟨?_, ?_, ?_, live, closed⟩
    · rw [List.append_assoc] at once
      rw [map_serial_records, List.map_append, List.append_assoc]
      exact perm_declined once
    · rw [List.map_append]
      exact perm_declined answered
    · intro declined member
      rcases List.mem_append.mp member with old | new
      · exact untouched declined old
      · rw [List.mem_singleton.mp new]
        exact ⟨rfl, rfl⟩
  | @reported key slot found seen =>
    refine ⟨?_, answered, untouched, ?_, closed⟩
    · rw [map_serial_records]
      have same := SlotTable.serials_update found { slot with ready := slot.ready.union seen } rfl
      exact ((same.append_left _).append_right _).trans once
    · intro other rival there
      rcases SlotTable.of_get?_update found there with ⟨rfl, rfl⟩ | ⟨-, before⟩
      · exact live other slot found
      · exact live other rival before
  | @kept events key slot scratch turn found turned kept =>
    obtain ⟨made, spent⟩ := turned.spent
    refine ⟨?_, answered, untouched, ?_, closed⟩
    · rw [map_serial_records]
      have same := SlotTable.serials_update found turn.slot spent.serial
      exact ((same.append_left _).append_right _).trans once
    · intro other rival there
      rcases SlotTable.of_get?_update found there with ⟨rfl, rfl⟩ | ⟨-, before⟩
      · obtain ⟨placed, unclosed⟩ := live other slot found
        exact ⟨spent.serial ▸ placed, spent.unclosed unclosed⟩
      · exact live other rival before
  | @closed throttled events key slot connection found last =>
    obtain ⟨placed, unclosed⟩ := live key slot found
    obtain ⟨serial, unclosed⟩ := last_unclosed unclosed last
    refine ⟨?_, answered, untouched, ?_, ?_⟩
    · rw [map_serial_records]
      have left := SlotTable.serials_erase found
      rw [List.map_append, List.map_singleton, Connection.close_serial, serial]
      exact perm_closed once left
    · intro other rival there
      exact live other rival (SlotTable.of_get?_erase found there).2
    · intro ended member
      rcases List.mem_append.mp member with old | new
      · exact closed ended old
      · rw [List.mem_singleton.mp new]
        refine ⟨?_, Connection.close_closedOnce unclosed⟩
        rw [Connection.close_serial, serial]
        exact placed

theorem Reached.custody {limit bufferSize : Nat} {ledger : Ledger C}
    (path : Reached limit bufferSize ledger) : ledger.Custody :=
  path.invariant (custody_start limit bufferSize) fun _ _ sound custody => custody.step sound

-- At every moment of a run, the middle of a service included, every channel that was offered is in
-- one place; and none has been called since its close had finished.
theorem every_channel_in_custody (limit bufferSize : Nat) (operations : List (Operation C))
    (scratch : Bytes) (farewell : Ended (Recorded C) → List Event) (bound : Nat) :
    ((after limit bufferSize operations).serving scratch farewell bound).Custody ∧
      ∀ record ∈ ((after limit bufferSize operations).serving scratch farewell bound).records,
        ∀ before later, record.calls = before ++ .close .finished :: later → later = [] := by
  have path := (reached_after limit bufferSize operations).serving scratch farewell bound
  exact ⟨path.custody, fun _ member _ _ calls => path.custody.silent member calls⟩

-- One is turned away, one lives under the key of another, and that one took three attempts to close.
example :
    let slow : Scripted := { closeBlocks := [.read, .write] }
    let ledger := after 1 4 [.enroll slow, .enroll {}, .release 0, .enroll {}]
    ledger.ended.map (fun ended => ended.channel.calls) =
        [[.close (.blocked .read), .close (.blocked .write), .close .finished]] ∧
      ledger.records.map Recorded.serial = [1, 2, 0] := by
  decide +kernel

end Ledger

end SecureEcho
