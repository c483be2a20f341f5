import SecureEcho.Channel
import SecureEcho.Proofs.Registry.Occupancy
import SecureEcho.Proofs.Registry.Restraint

namespace SecureEcho

namespace Recorded

variable {C : Type}

-- Since `before` at most one read or write was made, and any number of attempts to close.
structure Advanced (before after : Recorded C) : Prop where
  serial : after.serial = before.serial
  calls : ∃ made, after.calls = before.calls ++ made ∧
    (made.filter fun call => !call.isClose).length ≤ 1

theorem Advanced.refl (record : Recorded C) : record.Advanced record := ⟨rfl, [], by simp, by simp⟩

theorem Advanced.closed {before record closed : Recorded C} (advanced : before.Advanced record)
    (serial : closed.serial = record.serial) {attempts : List Call}
    (calls : closed.calls = record.calls ++ attempts)
    (closing : ∀ call ∈ attempts, call.isClose = true) : before.Advanced closed := by
  obtain ⟨same, made, earlier, few⟩ := advanced
  refine ⟨serial.trans same, made ++ attempts, by rw [calls, earlier, List.append_assoc], ?_⟩
  have none : (attempts.filter fun call => !call.isClose) = [] :=
    List.filter_eq_nil_iff.mpr fun call member => by simp [closing call member]
  rw [List.filter_append, none, List.append_nil]
  exact few

end Recorded

namespace Connection

variable {C : Type} [Channel C]

theorem Turned.advanced {connection : Connection (Recorded C)} {ready : Readiness} {scratch : Bytes}
    {turn : Turn (Recorded C)} (turned : connection.Turned ready scratch turn) :
    connection.channel.Advanced turn.connection.channel := by
  obtain ⟨made, spent⟩ := turned.spent
  refine ⟨spent.serial, ?_⟩
  rcases turned.quiet_or_called with same | ⟨call, -, -, calls, -⟩
  · exact ⟨[], by simp [same], by simp⟩
  · exact ⟨[call], calls, List.length_filter_le _ _⟩

end Connection

namespace Ledger

variable {C : Type} [Channel C] [Closable C]

theorem advanced_serveSlot {ledger middle : Ledger C}
    (before : ∀ record ∈ middle.records, ∃ earlier ∈ ledger.records, earlier.Advanced record)
    {key : Nat} (untouched : middle.registry.get? key = ledger.registry.get? key) (scratch : Bytes)
    (farewell : Ended (Recorded C) → List Event) :
    ∀ record ∈ (middle.serveSlot scratch farewell key).records,
      ∃ earlier ∈ ledger.records, earlier.Advanced record := by
  cases found : middle.registry.get? key with
  | none =>
    rw [serveSlot_of_free found]
    exact before
  | some slot =>
    have turned := slot.connection.turned_notify slot.ready scratch
    have mine : slot.connection.channel ∈ ledger.records :=
      mem_records.mpr (.inr (.inl ⟨key, slot, untouched ▸ found, rfl⟩))
    have stays : ∀ other rival, middle.registry.get? other = some rival →
        ∃ earlier ∈ ledger.records, earlier.Advanced rival.connection.channel :=
      fun other rival there => before _ (mem_records.mpr (.inr (.inl ⟨other, rival, there, rfl⟩)))
    intro record member
    cases verdict : (slot.connection.notify slot.ready scratch).verdict with
    | keep =>
      rw [serveSlot_of_keep found turned verdict] at member
      rcases mem_records.mp member with back | ⟨other, rival, there, rfl⟩ | out
      · exact before record (mem_records.mpr (.inl back))
      · rcases SlotTable.of_get?_update found there with ⟨-, rfl⟩ | ⟨-, there⟩
        · exact ⟨_, mine, turned.advanced⟩
        · exact stays other rival there
      · exact before record (mem_records.mpr (.inr (.inr out)))
    | close =>
      rw [serveSlot_of_close found turned verdict, Registry.vacate, Registry.updateThrottle_eq] at member
      rcases mem_records.mp member with back | ⟨other, rival, there, rfl⟩ | ⟨ended, out, rfl⟩
      · exact before record (mem_records.mpr (.inl back))
      · exact stays other rival (SlotTable.of_get?_erase found there).2
      · rcases List.mem_append.mp out with old | new
        · exact before _ (mem_records.mpr (.inr (.inr ⟨ended, old, rfl⟩)))
        · obtain ⟨serial, attempts, calls, closing⟩ :=
            (slot.connection.notify slot.ready scratch).connection.close_calls
          rw [List.mem_singleton.mp new]
          exact ⟨_, mine, turned.advanced.closed serial calls closing⟩

theorem advanced_serving (ledger : Ledger C) (scratch : Bytes)
    (farewell : Ended (Recorded C) → List Event) (bound : Nat) :
    ∀ record ∈ (ledger.serving scratch farewell bound).records,
      ∃ earlier ∈ ledger.records, earlier.Advanced record := by
  induction bound with
  | zero =>
    rw [serving_zero]
    exact fun record member => ⟨record, member, .refl record⟩
  | succ bound ih =>
    rw [serving_succ]
    exact advanced_serveSlot ih
      (ledger.registry.get?_serveBelow_of_le scratch farewell (Nat.le_refl bound)) _ farewell

theorem held_up_channels_left_alone (limit bufferSize : Nat) (operations : List (Operation C))
    (scratch : Bytes) (farewell : Ended (Recorded C) → List Event) (bound : Nat) :
    let ledger := after limit bufferSize operations
    (∀ record ∈ (ledger.serving scratch farewell bound).records,
      record.Restrained ledger.reported ∧ ∃ earlier ∈ ledger.records, earlier.Advanced record) ∧
      ∀ report ∈ ledger.reported, report.seen.hangup = true → ∀ key slot,
        ledger.registry.get? key = some slot → slot.connection.channel.serial = report.serial →
          ⟨key, slot.connection.close.2⟩ ∈ (ledger.perform (.serve scratch farewell)).ended := by
  intro ledger
  have path := reached_after (C := C) limit bufferSize operations
  refine ⟨fun record member => ⟨?_, advanced_serving ledger scratch farewell bound record member⟩, ?_⟩
  · exact (path.serving scratch farewell bound).restrained.record member
  · intro report noted hung key slot found same
    have ready := ((path.restrained.live key slot found).hungUp report noted same.symm hung).2
    have chronicled := chronicled_after limit bufferSize operations
    have limit_eq : ledger.registry.limit = limit := chronicled.limit_eq
    have inside : key < ledger.registry.limit := limit_eq ▸ chronicled.inOrder.occupied_lt key slot found
    exact List.mem_append_right _ (Registry.ended_of_hangup found ready scratch farewell inside)

-- The second channel's write is held up by a read. That it can be written to is reported and served
-- without its being called; it is called again once there is something to read.
theorem held_up_channel_called_again_after_its_report :
    let serve : Operation Scripted := .serve [0, 0, 0] fun _ => []
    let operations : List (Operation Scripted) :=
      [.enroll {}, .report 0 .onHangup, serve,
        .enroll { arrivals := [.data [5, 6]], uptakes := [.blocked .read] },
        .report 0 (.ofDirection .read), serve, .report 0 (.ofDirection .write), serve, serve,
        .report 0 (.ofDirection .write), serve, .report 0 (.ofDirection .read)]
    let ledger := after 1 4 operations
    ∃ record ∈ (ledger.serving [0, 0, 0] (fun _ => []) 1).records,
      record.calls =
          [.read 3 (.progressed 2) [5, 6], .write [5, 6] (.blocked .read), .write [5, 6] (.progressed 2)] ∧
        Report.Renews ledger.reported 1 .read 2 ∧
        ∃ earlier ∈ ledger.records, earlier.Advanced record ∧
          earlier.calls = [.read 3 (.progressed 2) [5, 6], .write [5, 6] (.blocked .read)] := by
  intro serve operations ledger
  have ran : (ledger.serving [0, 0, 0] (fun _ => []) 1).records.map
      (fun record => (record.serial, record.calls)) =
        [(1, [.read 3 (.progressed 2) [5, 6], .write [5, 6] (.blocked .read),
          .write [5, 6] (.progressed 2)]), (0, [.close .finished])] := by
    decide +kernel
  have waited : ledger.records.map (fun record => (record.serial, record.calls)) =
      [(1, [.read 3 (.progressed 2) [5, 6], .write [5, 6] (.blocked .read)]), (0, [.close .finished])] := by
    decide +kernel
  obtain ⟨kept, -⟩ := held_up_channels_left_alone 1 4 operations [0, 0, 0] (fun _ => []) 1
  obtain ⟨record, member, called⟩ := List.exists_of_mem_map (ran ▸ List.mem_cons_self)
  obtain ⟨serial, calls⟩ := Prod.mk.inj called
  obtain ⟨restrained, earlier, among, advanced⟩ := kept record member
  have renewed := restrained.renewed 1 2 (.write [5, 6] (.blocked .read)) (.write [5, 6] (.progressed 2))
    .read (by rw [calls]; rfl) rfl (by decide) (by rw [calls]; rfl) rfl
  rw [serial] at renewed
  have before : (earlier.serial, earlier.calls) ∈
      ledger.records.map fun record => (record.serial, record.calls) := List.mem_map_of_mem among
  rw [waited, advanced.serial.symm.trans serial] at before
  refine ⟨record, member, calls, renewed, earlier, among, advanced, ?_⟩
  simpa using before

end Ledger

end SecureEcho
