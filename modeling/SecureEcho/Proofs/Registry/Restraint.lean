import SecureEcho.Proofs.Registry.Custody
import SecureEcho.Proofs.Registry.Wakeup

namespace SecureEcho

namespace Report

def Renews (reported : List Report) (serial : Nat) (want : Direction) (calls : Nat) : Prop :=
  ∃ report ∈ reported, report.serial = serial ∧ report.seen.allows want = true ∧ report.calls = calls

theorem Renews.append {reported : List Report} {serial calls : Nat} {want : Direction}
    (renews : Renews reported serial want calls) (more : List Report) :
    Renews (reported ++ more) serial want calls := by
  obtain ⟨report, member, rest⟩ := renews
  exact ⟨report, List.mem_append_left _ member, rest⟩

end Report

theorem Call.of_getElem?_concat {calls : List Call} {last call : Call} {place : Nat}
    (there : (calls ++ [last])[place]? = some call) :
    place < calls.length ∧ calls[place]? = some call ∨ place = calls.length ∧ call = last := by
  rcases Nat.lt_or_ge place calls.length with before | beyond
  · rw [List.getElem?_append_left before] at there
    exact .inl ⟨before, there⟩
  · have inside := (List.getElem?_eq_some_iff.mp there).choose
    rw [List.length_append, List.length_singleton] at inside
    obtain rfl : place = calls.length := by omega
    rw [List.getElem?_concat_length] at there
    exact .inr ⟨rfl, (Option.some.inj there).symm⟩

namespace Recorded

variable {C : Type}

-- After a call that was held up no read or write is made without a report in between, and after a
-- hangup none at all.
structure Restrained (reported : List Report) (record : Recorded C) : Prop where
  renewed : ∀ (place later : Nat) (call next : Call) (want : Direction),
    record.calls[place]? = some call → call.blockedOn want = true → place < later →
      record.calls[later]? = some next → next.isClose = false →
        Report.Renews reported record.serial want (place + 1)
  hungUp : ∀ report ∈ reported, report.serial = record.serial → report.seen.hangup = true →
    ∀ call ∈ record.calls.drop report.calls, call.isClose = true

theorem Restrained.report_elsewhere {reported : List Report} {record : Recorded C}
    (restrained : record.Restrained reported) {report : Report} (other : report.serial ≠ record.serial) :
    record.Restrained (reported ++ [report]) where
  renewed place later call next want first blocked order last unclosing :=
    (restrained.renewed place later call next want first blocked order last unclosing).append _
  hungUp := by
    intro noted member same
    rcases List.mem_append.mp member with old | new
    · exact restrained.hungUp noted old same
    · rw [List.mem_singleton.mp new] at same
      exact absurd same other

theorem Restrained.closed {reported : List Report} {record closed : Recorded C}
    (restrained : record.Restrained reported) (serial : closed.serial = record.serial)
    {attempts : List Call} (calls : closed.calls = record.calls ++ attempts)
    (closing : ∀ call ∈ attempts, call.isClose = true) : closed.Restrained reported where
  renewed place later call next want first blocked order last unclosing := by
    have inside : later < record.calls.length := by
      by_contra beyond
      rw [calls, List.getElem?_append_right (by omega)] at last
      rw [closing next (List.mem_of_getElem? last)] at unclosing
      cases unclosing
    rw [calls, List.getElem?_append_left (by omega)] at first
    rw [calls, List.getElem?_append_left inside] at last
    rw [serial]
    exact restrained.renewed place later call next want first blocked order last unclosing
  hungUp report member same hangup call among := by
    rw [calls, List.drop_append] at among
    rcases List.mem_append.mp among with before | attempt
    · exact restrained.hungUp report member (same.trans serial) hangup call before
    · exact closing call (List.mem_of_mem_drop attempt)

end Recorded

theorem Connection.Turned.of_hangup {C : Type} [Channel C] {connection : Connection C}
    {ready : Readiness} {scratch : Bytes} {turn : Turn C} (turned : connection.Turned ready scratch turn)
    (hangup : ready.hangup = true) :
    turn = ⟨.close, connection, ready, scratch, [.hangup connection.buffered]⟩ :=
  (notify_eq_of_turned turned).symm.trans (notify_eq_of_turned (.hungUp hangup))

namespace Slot

variable {C : Type}

-- The last call may have been held up, with nothing reported for it yet; then the connection waits for
-- it and nothing else.
structure Restrained (reported : List Report) (slot : Slot (Recorded C)) : Prop where
  unclosed : slot.connection.channel.Unclosed
  waits : ∀ (place : Nat) (call : Call) (want : Direction),
    slot.connection.channel.calls[place]? = some call → call.blockedOn want = true →
      Report.Renews reported slot.connection.channel.serial want (place + 1) ∨
        place + 1 = slot.connection.channel.calls.length ∧
          slot.connection.interest = .waitingFor want ∧ slot.ready.allows want = false
  hungUp : ∀ report ∈ reported, report.serial = slot.connection.channel.serial →
    report.seen.hangup = true →
      report.calls = slot.connection.channel.calls.length ∧ slot.ready.hangup = true

theorem restrained_new {reported : List Report} {record : Recorded C} (bufferSize : Nat)
    (uncalled : record.calls = []) (unheard : ∀ report ∈ reported, report.serial ≠ record.serial) :
    Restrained reported ⟨.new record bufferSize, .empty⟩ where
  unclosed := by
    intro call member
    simp [Connection.new, uncalled] at member
  waits := by
    intro place call want there
    simp [Connection.new, uncalled] at there
  hungUp report member same := absurd same (unheard report member)

theorem Restrained.report_elsewhere {reported : List Report} {slot : Slot (Recorded C)}
    (restrained : slot.Restrained reported) {report : Report}
    (other : report.serial ≠ slot.connection.channel.serial) : slot.Restrained (reported ++ [report]) where
  unclosed := restrained.unclosed
  waits place call want there blocked :=
    (restrained.waits place call want there blocked).imp_left (·.append _)
  hungUp := by
    intro noted member same
    rcases List.mem_append.mp member with old | new
    · exact restrained.hungUp noted old same
    · rw [List.mem_singleton.mp new] at same
      exact absurd same other

theorem Restrained.report {reported : List Report} {slot : Slot (Recorded C)}
    (restrained : slot.Restrained reported) (seen : Readiness) :
    Restrained
      (reported ++ [⟨slot.connection.channel.serial, seen, slot.connection.channel.calls.length⟩])
      { slot with ready := slot.ready.union seen } where
  unclosed := restrained.unclosed
  waits := by
    intro place call want there blocked
    rcases restrained.waits place call want there blocked with renewed | ⟨last, interest, unready⟩
    · exact .inl (renewed.append _)
    · cases added : seen.allows want with
      | true => exact .inl ⟨_, List.mem_append_right _ (List.mem_singleton.mpr rfl), rfl, added, last.symm⟩
      | false => exact .inr ⟨last, interest, by simp [unready, added]⟩
  hungUp := by
    intro noted member same hangup
    rcases List.mem_append.mp member with old | new
    · obtain ⟨calls, ready⟩ := restrained.hungUp noted old same hangup
      exact ⟨calls, by simp [ready]⟩
    · rw [List.mem_singleton.mp new] at hangup ⊢
      exact ⟨rfl, (Bool.or_eq_true _ _).mpr (.inr hangup)⟩

theorem Restrained.renewed_of_roused {reported : List Report} {slot : Slot (Recorded C)}
    (restrained : slot.Restrained reported) (roused : slot.connection.Roused slot.ready) {place : Nat}
    {call : Call} {want : Direction} (there : slot.connection.channel.calls[place]? = some call)
    (blocked : call.blockedOn want = true) :
    Report.Renews reported slot.connection.channel.serial want (place + 1) := by
  rcases restrained.waits place call want there blocked with renewed | ⟨-, interest, unready⟩
  · exact renewed
  · have met := roused.met
    rw [interest, Readiness.meets_waitingFor, unready, roused.alive] at met
    cases met

theorem Restrained.record {reported : List Report} {slot : Slot (Recorded C)}
    (restrained : slot.Restrained reported) : slot.connection.channel.Restrained reported where
  renewed place later call next want first blocked order last unclosing := by
    rcases restrained.waits place call want first blocked with renewed | ⟨final, -, -⟩
    · exact renewed
    · have inside := (List.getElem?_eq_some_iff.mp last).choose
      omega
  hungUp report member same hangup call among := by
    rw [(restrained.hungUp report member same hangup).1, List.drop_length] at among
    cases among

variable [Channel C]

theorem Restrained.turned {reported : List Report} {slot : Slot (Recorded C)}
    (restrained : slot.Restrained reported) {scratch : Bytes} {turn : Turn (Recorded C)}
    (turned : slot.connection.Turned slot.ready scratch turn) (kept : turn.verdict = .keep) :
    turn.slot.Restrained reported := by
  obtain ⟨made, spent⟩ := turned.spent
  have serial : turn.slot.connection.channel.serial = slot.connection.channel.serial := spent.serial
  refine ⟨spent.unclosed restrained.unclosed, ?_, ?_⟩
  · intro place call want there blocked
    rw [serial]
    rcases turned.quiet_or_called with same | ⟨last, roused, -, calls, waiting⟩
    · have same : turn.slot.connection = slot.connection := same
      rw [same] at there ⊢
      refine (restrained.waits place call want there blocked).imp_right ?_
      rintro ⟨final, interest, unready⟩
      refine ⟨final, interest, eq_false_of_ne_true fun ready => ?_⟩
      rw [turned.readiness.1 want ready] at unready
      cases unready
    · have calls : turn.slot.connection.channel.calls = slot.connection.channel.calls ++ [last] := calls
      rw [calls] at there ⊢
      rcases Call.of_getElem?_concat there with ⟨-, before⟩ | ⟨rfl, rfl⟩
      · exact .inl (restrained.renewed_of_roused roused before blocked)
      · exact .inr ⟨by simp, waiting want blocked⟩
  · intro report member same hangup
    have hung := (restrained.hungUp report member (same.trans serial) hangup).2
    rw [turned.of_hangup hung] at kept
    cases kept

theorem Restrained.record_turned {reported : List Report} {slot : Slot (Recorded C)}
    (restrained : slot.Restrained reported) {scratch : Bytes} {turn : Turn (Recorded C)}
    (turned : slot.connection.Turned slot.ready scratch turn) :
    turn.connection.channel.Restrained reported := by
  obtain ⟨made, spent⟩ := turned.spent
  rcases turned.quiet_or_called with same | ⟨final, roused, -, calls, -⟩
  · rw [same]
    exact restrained.record
  · refine ⟨?_, ?_⟩
    · intro place later call next want first blocked order last unclosing
      rw [calls] at first last
      have inside : place < slot.connection.channel.calls.length := by
        rcases Call.of_getElem?_concat last with ⟨before, -⟩ | ⟨end_eq, -⟩ <;> omega
      rw [List.getElem?_append_left inside] at first
      rw [spent.serial]
      exact restrained.renewed_of_roused roused first blocked
    · intro report member same hangup
      have hung := (restrained.hungUp report member (same.trans spent.serial) hangup).2
      rw [roused.alive] at hung
      cases hung

end Slot

namespace Connection

variable {C : Type} [Channel C]

theorem close_calls [Closable C] (connection : Connection (Recorded C)) :
    connection.close.2.serial = connection.channel.serial ∧
      ∃ attempts, connection.close.2.calls = connection.channel.calls ++ attempts ∧
        ∀ call ∈ attempts, call.isClose = true := by
  obtain ⟨serial, wants, calls⟩ := closeWithin_calls connection.channel (Nat.le_refl _) 0
  refine ⟨serial, wants.map (fun want => .close (.blocked want)) ++ [.close .finished], ?_, ?_⟩
  · rw [← List.append_assoc]
    exact calls
  · intro call member
    rcases List.mem_append.mp member with retried | last
    · obtain ⟨want, -, rfl⟩ := List.mem_map.mp retried
      rfl
    · rw [List.mem_singleton.mp last]
      rfl

end Connection

namespace Ledger

variable {C : Type}

theorem mem_records {ledger : Ledger C} {record : Recorded C} :
    record ∈ ledger.records ↔
      (∃ declined ∈ ledger.declined, declined.channel = record) ∨
        (∃ key slot, ledger.registry.get? key = some slot ∧ slot.connection.channel = record) ∨
          ∃ ended ∈ ledger.ended, ended.channel = record := by
  simp only [records, Registry.channels, List.append_assoc, List.mem_append, List.mem_map,
    SlotTable.mem_values]
  constructor
  · rintro (declined | ⟨slot, ⟨key, found⟩, same⟩ | ended)
    · exact .inl declined
    · exact .inr (.inl ⟨key, slot, found, same⟩)
    · exact .inr (.inr ended)
  · rintro (declined | ⟨key, slot, found, same⟩ | ended)
    · exact .inl declined
    · exact .inr (.inl ⟨slot, ⟨key, found⟩, same⟩)
    · exact .inr (.inr ended)

theorem Custody.serial_ne_of_ended {ledger : Ledger C} (custody : ledger.Custody) {key : Nat}
    {slot : Slot (Recorded C)} (found : ledger.registry.get? key = some slot)
    {ended : Ended (Recorded C)} (member : ended ∈ ledger.ended) :
    slot.connection.channel.serial ≠ ended.channel.serial := by
  have once := custody.once.nodup_iff.mpr List.nodup_range
  rw [map_serial_records] at once
  have live : slot.connection.channel.serial ∈ ledger.registry.table.serials :=
    List.mem_map.mpr ⟨slot, SlotTable.mem_values.mpr ⟨key, found⟩, rfl⟩
  exact (List.nodup_append.mp once).2.2 _ (List.mem_append_right _ live) _
    (List.mem_map.mpr ⟨ended, member, rfl⟩)

structure Restrained (ledger : Ledger C) : Prop where
  custody : ledger.Custody
  numbered : ledger.Numbered
  live : ∀ key slot, ledger.registry.get? key = some slot → slot.Restrained ledger.reported
  ended : ∀ ended ∈ ledger.ended, ended.channel.Restrained ledger.reported

theorem restrained_start (limit bufferSize : Nat) : (start (C := C) limit bufferSize).Restrained where
  custody := custody_start limit bufferSize
  numbered := numbered_start limit bufferSize
  live key slot found := by cases found
  ended ended member := by cases member

theorem Restrained.record {ledger : Ledger C} (restrained : ledger.Restrained) {record : Recorded C}
    (member : record ∈ ledger.records) : record.Restrained ledger.reported := by
  rcases mem_records.mp member with ⟨declined, among, rfl⟩ | ⟨key, slot, found, rfl⟩ | ⟨ended, among, rfl⟩
  · have uncalled := (restrained.custody.untouched declined among).2
    exact ⟨by simp [uncalled], by simp [uncalled]⟩
  · exact (restrained.live key slot found).record
  · exact restrained.ended ended among

variable [Channel C] [Closable C]

theorem Restrained.step {ledger next : Ledger C} (sound : ledger.registry.table.Sound)
    (restrained : ledger.Restrained) (step : ledger.Step next) : next.Restrained := by
  have custody := restrained.custody.step sound step
  have numbered := restrained.numbered.step sound step
  obtain ⟨before, apart, live, ended⟩ := restrained
  refine ⟨custody, numbered, ?_, ?_⟩
  · cases step with
    | enrolled channel free =>
      intro key slot there
      rcases sound.of_get?_insert there with ⟨-, rfl⟩ | old
      · exact Slot.restrained_new _ rfl fun report member same =>
          absurd same (Nat.ne_of_lt (apart.noted report member))
      · exact live key slot old
    | declined channel full => exact live
    | @reported key slot found seen =>
      intro other rival there
      rcases SlotTable.of_get?_update found there with ⟨-, rfl⟩ | ⟨elsewhere, old⟩
      · exact (live key slot found).report seen
      · refine (live other rival old).report_elsewhere fun same => elsewhere ?_
        exact apart.apart other key _ (serialAt_of_found old) (same ▸ serialAt_of_found found)
    | kept found turned kept =>
      intro other rival there
      rcases SlotTable.of_get?_update found there with ⟨-, rfl⟩ | ⟨-, old⟩
      · exact (live _ _ found).turned turned kept
      · exact live other rival old
    | closed found last =>
      intro other rival there
      exact live other rival (SlotTable.of_get?_erase found there).2
  · cases step with
    | enrolled channel free => exact ended
    | declined channel full => exact ended
    | @reported key slot found seen =>
      intro one member
      exact (ended one member).report_elsewhere (before.serial_ne_of_ended found member)
    | kept found turned kept => exact ended
    | @closed throttled events key slot connection found last =>
      intro one member
      rcases List.mem_append.mp member with old | new
      · exact ended one old
      · have given : connection.channel.Restrained ledger.reported := by
          rcases last with rfl | ⟨scratch, turn, turned, rfl⟩
          · exact (live key slot found).record
          · exact (live key slot found).record_turned turned
        obtain ⟨serial, attempts, calls, closing⟩ := connection.close_calls
        rw [List.mem_singleton.mp new]
        exact given.closed serial calls closing

theorem Reached.restrained {limit bufferSize : Nat} {ledger : Ledger C}
    (path : Reached limit bufferSize ledger) : ledger.Restrained :=
  path.invariant (restrained_start limit bufferSize) fun _ _ sound restrained => restrained.step sound

end Ledger

end SecureEcho
