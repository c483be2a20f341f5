import SecureEcho.Channel
import SecureEcho.Proofs.Connection.Supply
import SecureEcho.Proofs.Registry.Ledger

namespace SecureEcho

namespace Report

def latest (reported : List Report) (serial : Nat) (direction : Direction) : Option Report :=
  (reported.filter fun report => report.serial = serial && report.seen.allows direction).getLast?

theorem latest_append (reported : List Report) (report : Report) (serial : Nat)
    (direction : Direction) :
    latest (reported ++ [report]) serial direction =
      if report.serial = serial ∧ report.seen.allows direction = true then some report
      else latest reported serial direction := by
  unfold latest
  rw [List.filter_append]
  split
  · rename_i counts
    simp [counts.1, counts.2]
  · rename_i ignored
    have ignored : (decide (report.serial = serial) && report.seen.allows direction) = false := by
      simpa using ignored
    simp [ignored]

theorem of_latest {reported : List Report} {report : Report} {serial : Nat} {direction : Direction}
    (last : latest reported serial direction = some report) :
    report ∈ reported ∧ report.serial = serial ∧ report.seen.allows direction = true := by
  have member := List.mem_filter.mp (List.mem_of_getLast? last)
  exact ⟨member.1, by simpa using member.2⟩

theorem latest_eq_none {reported : List Report} {serial : Nat}
    (other : ∀ report ∈ reported, report.serial ≠ serial) (direction : Direction) :
    latest reported serial direction = none := by
  cases last : latest reported serial direction with
  | none => rfl
  | some report =>
    obtain ⟨member, same, -⟩ := of_latest last
    exact absurd same (other report member)

end Report

namespace Slot

variable {C : Type}

structure Watched (reported : List Report) (slot : Slot (Recorded C)) : Prop where
  supplied : slot.connection.Supplied
  stamped : ∀ report ∈ reported, report.serial = slot.connection.channel.serial →
    report.calls ≤ slot.connection.channel.calls.length
  allows_iff : ∀ direction, slot.ready.allows direction = true ↔
    ∃ report, Report.latest reported slot.connection.channel.serial direction = some report ∧
      ∀ call ∈ slot.connection.channel.calls.drop report.calls, call.blockedOn direction = false
  hangup_iff : slot.ready.hangup = true ↔
    ∃ report ∈ reported, report.serial = slot.connection.channel.serial ∧ report.seen.hangup = true

theorem watched_new {reported : List Report} {record : Recorded C} (bufferSize : Nat)
    (unheard : ∀ report ∈ reported, report.serial ≠ record.serial) :
    Watched reported ⟨.new record bufferSize, .empty⟩ where
  supplied := Connection.supplied_new record bufferSize
  stamped report member same := absurd same (unheard report member)
  allows_iff direction := by
    have silent : Report.latest reported (Connection.new record bufferSize).channel.serial direction = none :=
      Report.latest_eq_none unheard direction
    cases direction <;> simp [silent, Readiness.empty, Readiness.allows]
  hangup_iff := by
    constructor
    · intro hangup
      cases hangup
    · rintro ⟨report, member, same, -⟩
      exact absurd same (unheard report member)

theorem Watched.report_elsewhere {reported : List Report} {slot : Slot (Recorded C)}
    (watched : Watched reported slot) {report : Report}
    (other : report.serial ≠ slot.connection.channel.serial) : Watched (reported ++ [report]) slot where
  supplied := watched.supplied
  stamped := by
    intro noted member same
    rcases List.mem_append.mp member with old | new
    · exact watched.stamped noted old same
    · rw [List.mem_singleton.mp new] at same
      exact absurd same other
  allows_iff direction := by
    rw [Report.latest_append, if_neg fun both => other both.1]
    exact watched.allows_iff direction
  hangup_iff := by
    rw [watched.hangup_iff]
    constructor
    · rintro ⟨noted, member, hung⟩
      exact ⟨noted, List.mem_append_left _ member, hung⟩
    · rintro ⟨noted, member, same, hung⟩
      rcases List.mem_append.mp member with old | new
      · exact ⟨noted, old, same, hung⟩
      · rw [List.mem_singleton.mp new] at same
        exact absurd same other

theorem Watched.report {reported : List Report} {slot : Slot (Recorded C)}
    (watched : Watched reported slot) (seen : Readiness) :
    Watched (reported ++ [⟨slot.connection.channel.serial, seen, slot.connection.channel.calls.length⟩])
      { slot with ready := slot.ready.union seen } where
  supplied := watched.supplied
  stamped := by
    intro noted member same
    rcases List.mem_append.mp member with old | new
    · exact watched.stamped noted old same
    · rw [List.mem_singleton.mp new]
  allows_iff direction := by
    rw [Report.latest_append, Readiness.allows_union]
    cases added : seen.allows direction with
    | true => simp
    | false =>
      simp only [Bool.or_false, Bool.false_eq_true, and_false, ↓reduceIte]
      exact watched.allows_iff direction
  hangup_iff := by
    rw [Readiness.hangup_union, Bool.or_eq_true, watched.hangup_iff]
    constructor
    · rintro (⟨noted, member, hung⟩ | hung)
      · exact ⟨noted, List.mem_append_left _ member, hung⟩
      · exact ⟨_, List.mem_append_right _ (List.mem_singleton.mpr rfl), rfl, hung⟩
    · rintro ⟨noted, member, same, hung⟩
      rcases List.mem_append.mp member with old | new
      · exact .inl ⟨noted, old, same, hung⟩
      · rw [List.mem_singleton.mp new] at hung
        exact .inr hung

theorem Watched.turned {reported : List Report} {slot : Slot (Recorded C)}
    (watched : Watched reported slot) {turn : Turn (Recorded C)} {made : List Call}
    (spent : slot.connection.Spent slot.ready turn made) (supplied : turn.connection.Supplied) :
    Watched reported turn.slot where
  supplied := supplied
  stamped := by
    intro report member same
    have before := watched.stamped report member (same.trans spent.serial)
    have calls : turn.slot.connection.channel.calls = slot.connection.channel.calls ++ made := spent.calls
    rw [calls, List.length_append]
    omega
  allows_iff direction := by
    have serial : turn.slot.connection.channel.serial = slot.connection.channel.serial := spent.serial
    have calls : turn.slot.connection.channel.calls = slot.connection.channel.calls ++ made := spent.calls
    have ready : turn.slot.ready.allows direction = _ := spent.allows watched.supplied.busy direction
    -- A report is older than the calls of this turn, so these come after it.
    have later : ∀ report, Report.latest reported slot.connection.channel.serial direction = some report →
        (slot.connection.channel.calls ++ made).drop report.calls =
          slot.connection.channel.calls.drop report.calls ++ made := by
      intro report last
      obtain ⟨member, same, -⟩ := Report.of_latest last
      exact List.drop_append_of_le_length (watched.stamped report member same)
    rw [ready, serial, calls, Bool.and_eq_true, watched.allows_iff direction, List.all_eq_true]
    constructor
    · rintro ⟨⟨report, last, clear⟩, spared⟩
      refine ⟨report, last, ?_⟩
      rw [later report last]
      intro call member
      rcases List.mem_append.mp member with old | new
      · exact clear call old
      · simpa using spared call new
    · rintro ⟨report, last, clear⟩
      rw [later report last] at clear
      refine ⟨⟨report, last, fun call old => clear call (List.mem_append_left _ old)⟩, ?_⟩
      intro call new
      simpa using clear call (List.mem_append_right _ new)
  hangup_iff := by
    have serial : turn.slot.connection.channel.serial = slot.connection.channel.serial := spent.serial
    have hangup : turn.slot.ready.hangup = slot.ready.hangup := spent.hangup
    rw [hangup, serial]
    exact watched.hangup_iff

end Slot

namespace Ledger

variable {C : Type}

def serialAt (ledger : Ledger C) (key : Nat) : Option Nat :=
  (ledger.registry.get? key).map fun slot => slot.connection.channel.serial

theorem serialAt_of_found {ledger : Ledger C} {key : Nat} {slot : Slot (Recorded C)}
    (found : ledger.registry.get? key = some slot) :
    ledger.serialAt key = some slot.connection.channel.serial := by
  simp [serialAt, found]

structure Numbered (ledger : Ledger C) : Prop where
  live : ∀ key serial, ledger.serialAt key = some serial → serial < ledger.offered
  apart : ∀ one two serial, ledger.serialAt one = some serial → ledger.serialAt two = some serial →
    one = two
  noted : ∀ report ∈ ledger.reported, report.serial < ledger.offered

theorem numbered_start (limit bufferSize : Nat) : (start (C := C) limit bufferSize).Numbered where
  live key serial live := by cases live
  apart one two serial live := by cases live
  noted report member := by cases member

theorem serialAt_insert {ledger next : Ledger C} (sound : ledger.registry.table.Sound)
    {slot : Slot (Recorded C)} (table : next.registry.table = ledger.registry.table.insert slot)
    (key : Nat) :
    next.serialAt key =
      if key = ledger.registry.table.nextKey then some slot.connection.channel.serial
      else ledger.serialAt key := by
  unfold serialAt Registry.get?
  rw [table, sound.get?_insert]
  split <;> rfl

theorem serialAt_update {ledger next : Ledger C} {key : Nat} {old : Slot (Recorded C)}
    (found : ledger.registry.get? key = some old) (slot : Slot (Recorded C))
    (table : next.registry.table = ledger.registry.table.update key slot)
    (same : slot.connection.channel.serial = old.connection.channel.serial) :
    next.serialAt = ledger.serialAt := by
  funext other
  unfold serialAt Registry.get?
  rw [table, SlotTable.get?_update found]
  split
  · rename_i here
    subst here
    have found : ledger.registry.table.get? other = some old := found
    simp [found, same]
  · rfl

theorem serialAt_erase {ledger next : Ledger C} {key : Nat} {old : Slot (Recorded C)}
    (found : ledger.registry.get? key = some old)
    (table : next.registry.table = ledger.registry.table.erase key) {other serial : Nat}
    (live : next.serialAt other = some serial) : ledger.serialAt other = some serial := by
  unfold serialAt Registry.get? at live ⊢
  rw [table, SlotTable.get?_erase found] at live
  split at live
  · cases live
  · exact live

variable [Channel C] [Closable C]

theorem Numbered.step {ledger next : Ledger C} (sound : ledger.registry.table.Sound)
    (numbered : ledger.Numbered) (step : ledger.Step next) : next.Numbered := by
  obtain ⟨live, apart, noted⟩ := numbered
  cases step with
  | @enrolled throttled events channel free =>
    refine ⟨?_, ?_, fun report member => Nat.lt_succ_of_lt (noted report member)⟩
    · intro key serial found
      rw [serialAt_insert sound rfl] at found
      split at found
      · cases found
        exact Nat.lt_succ_self _
      · exact Nat.lt_succ_of_lt (live key serial found)
    · intro one two serial first second
      rw [serialAt_insert sound rfl] at first second
      split at first <;> split at second
      · exact ‹one = _›.trans ‹two = _›.symm
      · cases first
        exact absurd (live two _ second) (Nat.lt_irrefl _)
      · cases second
        exact absurd (live one _ first) (Nat.lt_irrefl _)
      · exact apart one two serial first second
  | declined channel full =>
    exact ⟨fun key serial found => Nat.lt_succ_of_lt (live key serial found), apart,
      fun report member => Nat.lt_succ_of_lt (noted report member)⟩
  | @reported key slot found seen =>
    refine ⟨?_, ?_, ?_⟩
    · rw [serialAt_update found { slot with ready := slot.ready.union seen } rfl rfl]
      exact live
    · rw [serialAt_update found { slot with ready := slot.ready.union seen } rfl rfl]
      exact apart
    · intro report member
      rcases List.mem_append.mp member with old | new
      · exact noted report old
      · rw [List.mem_singleton.mp new]
        exact live key _ (serialAt_of_found found)
  | @kept events key slot scratch turn found turned kept =>
    obtain ⟨made, spent⟩ := turned.spent
    refine ⟨?_, ?_, noted⟩
    · rw [serialAt_update found turn.slot rfl spent.serial]
      exact live
    · rw [serialAt_update found turn.slot rfl spent.serial]
      exact apart
  | @closed throttled events key slot connection found last =>
    refine ⟨?_, ?_, noted⟩
    · intro other serial here
      exact live other serial (serialAt_erase found rfl here)
    · intro one two serial first second
      exact apart one two serial (serialAt_erase found rfl first) (serialAt_erase found rfl second)

structure Watchful (ledger : Ledger C) : Prop where
  numbered : ledger.Numbered
  watched : ∀ key slot, ledger.registry.get? key = some slot →
    slot.connection.channel.WithinOffers → slot.Watched ledger.reported

theorem Watchful.step {ledger next : Ledger C} (sound : ledger.registry.table.Sound)
    (watchful : ledger.Watchful) (step : ledger.Step next) : next.Watchful := by
  obtain ⟨numbered, watched⟩ := watchful
  refine ⟨numbered.step sound step, ?_⟩
  cases step with
  | enrolled channel free =>
    intro key slot there within
    rcases sound.of_get?_insert there with ⟨-, rfl⟩ | before
    · refine Slot.watched_new _ fun report member same => ?_
      exact absurd same (Nat.ne_of_lt (numbered.noted report member))
    · exact watched key slot before within
  | declined channel full => exact watched
  | @reported key slot found seen =>
    intro other rival there within
    rcases SlotTable.of_get?_update found there with ⟨-, rfl⟩ | ⟨elsewhere, before⟩
    · exact (watched key slot found within).report seen
    · refine (watched other rival before within).report_elsewhere fun same => elsewhere ?_
      exact numbered.apart other key _ (serialAt_of_found before) (same ▸ serialAt_of_found found)
  | kept found turned kept =>
    intro other rival there within
    rcases SlotTable.of_get?_update found there with ⟨-, rfl⟩ | ⟨-, before⟩
    · obtain ⟨made, spent⟩ := turned.spent
      have before := watched _ _ found (spent.within_before within)
      exact before.turned spent (before.supplied.turned turned kept within)
    · exact watched other rival before within
  | closed found last =>
    intro other rival there within
    exact watched other rival (SlotTable.of_get?_erase found there).2 within

theorem Reached.watchful {limit bufferSize : Nat} {ledger : Ledger C}
    (path : Reached limit bufferSize ledger) : ledger.Watchful := by
  refine path.invariant ⟨numbered_start limit bufferSize, ?_⟩ fun _ _ sound watchful => watchful.step sound
  intro key slot found
  cases found

theorem ready_iff_reported_and_not_used_up (limit bufferSize : Nat) (operations : List (Operation C))
    {key : Nat} {slot : Slot (Recorded C)}
    (found : (after limit bufferSize operations).registry.get? key = some slot)
    (within : slot.connection.channel.WithinOffers) :
    (∀ direction, slot.ready.allows direction = true ↔
      ∃ report, Report.latest (after limit bufferSize operations).reported
          slot.connection.channel.serial direction = some report ∧
        ∀ call ∈ slot.connection.channel.calls.drop report.calls, call.blockedOn direction = false) ∧
      (slot.ready.hangup = true ↔
        ∃ report ∈ (after limit bufferSize operations).reported,
          report.serial = slot.connection.channel.serial ∧ report.seen.hangup = true) := by
  have watchful := (reached_after limit bufferSize operations).watchful
  have watched := watchful.watched key slot found within
  exact ⟨watched.allows_iff, watched.hangup_iff⟩

-- The first channel is hung up on; the second takes its key, and its write is held up by a read.
theorem ready_after_blocked_write_in_reused_slot :
    let both : Readiness := ⟨true, true, false⟩
    let serve : Operation Scripted := .serve [0, 0, 0] fun _ => []
    let operations : List (Operation Scripted) :=
      [.enroll {}, .report 0 .onHangup, serve,
        .enroll { arrivals := [.data [5, 6]], uptakes := [.blocked .read] }, .report 0 both, serve, serve]
    ∃ slot, (after 1 4 operations).registry.get? 0 = some slot ∧
      slot.connection.channel.WithinOffers ∧ slot.ready = ⟨false, true, false⟩ ∧
      (¬ ∃ report, Report.latest (after 1 4 operations).reported 1 .read = some report ∧
        ∀ call ∈ slot.connection.channel.calls.drop report.calls, call.blockedOn .read = false) ∧
      ∃ report, Report.latest (after 1 4 operations).reported 1 .write = some report ∧
        ∀ call ∈ slot.connection.channel.calls.drop report.calls, call.blockedOn .write = false := by
  intro both serve operations
  have ran : ((after 1 4 operations).registry.get? 0).map (fun slot =>
      (slot.ready, slot.connection.channel.serial, slot.connection.channel.calls)) =
        some (⟨false, true, false⟩, 1, [.read 3 (.progressed 2) [5, 6], .write [5, 6] (.blocked .read)]) := by
    decide +kernel
  obtain ⟨slot, found, left⟩ := Option.map_eq_some_iff.mp ran
  obtain ⟨ready, serial, calls⟩ : slot.ready = ⟨false, true, false⟩ ∧
      slot.connection.channel.serial = 1 ∧ slot.connection.channel.calls =
        [.read 3 (.progressed 2) [5, 6], .write [5, 6] (.blocked .read)] := by
    simpa using left
  have within : slot.connection.channel.WithinOffers := by
    intro offer count member
    simp [calls] at member
  have kept := (ready_iff_reported_and_not_used_up 1 4 operations found within).1
  rw [serial, ready] at kept
  refine ⟨slot, found, within, ready, ?_, (kept .write).mp rfl⟩
  intro readable
  cases (kept .read).mpr readable

end Ledger

end SecureEcho
