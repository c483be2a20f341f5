import SecureEcho.Proofs.Channel.Script
import SecureEcho.Proofs.Connection.Balance
import SecureEcho.Proofs.Connection.Settling
import SecureEcho.Proofs.Connection.Supply

namespace SecureEcho

def Phase.direction : Phase → Direction
  | .reading => .read
  | .writing => .write

namespace Connection

-- A phase of writing counts one, for the notification that brings it to its end.
def work (connection : Connection (Recorded Scripted)) : Nat :=
  connection.channel.channel.due + if connection.phase = .writing then 1 else 0

theorem isActionable_holdUp {C : Type} {connection : Connection C} {ready : Readiness}
    (alive : ready.hangup = false) (want : Direction) (scratch : Bytes) (events : List Event) :
    (connection.holdUp want ready scratch events).slot.isActionable = false := by
  simp [holdUp, Turn.slot, Slot.isActionable, isActionable, Readiness.meets_waitingFor,
    Readiness.allows_without, Readiness.hangup_without, alive]

theorem Turned.work_lt {connection : Connection (Recorded Scripted)} (supplied : connection.Supplied)
    {ready : Readiness} (busy : connection.isActionable ready = true) {scratch : Bytes}
    {turn : Turn (Recorded Scripted)} (turned : Turned connection ready scratch turn)
    (kept : turn.verdict = .keep) :
    turn.slot.isActionable = false ∨ turn.connection.work < connection.work := by
  cases turned with
  | hungUp | readFailed | readEnded | overrun | writeFailed => cases kept
  | idle alive unmet =>
    simp [isActionable, alive, unmet] at busy
  | readBlocked roused reading answer => exact .inl (isActionable_holdUp roused.alive _ _ _)
  | writeBlocked roused writing held peek answer =>
    exact .inl (isActionable_holdUp roused.alive _ _ _)
  | drained roused writing empty =>
    rw [supplied.busy writing] at empty
    cases empty
  | @stored count filled ring channel roused reading answer some put =>
    obtain ⟨script, inner, rfl⟩ := Recorded.of_read answer
    have less := Scripted.due_read inner
    have fits := Ring.put_count connection.ring (filled.take count)
    rw [put] at fits
    have fits : count = min (filled.take count).length connection.ring.free := fits
    rw [Transfer.moved_progressed] at less
    right
    show script.due + 1 < connection.channel.channel.due + _
    omega
  | @sent count staged ring channel roused writing held peek answer =>
    obtain ⟨script, inner, rfl⟩ := Recorded.of_write answer
    have less := (Scripted.due_write inner).1
    right
    show script.due + 0 < connection.channel.channel.due + _
    rw [if_pos writing]
    omega
  | @sentPart count taken staged ring channel roused writing held peek answer part =>
    obtain ⟨script, inner, rfl⟩ := Recorded.of_write answer
    have peeked := supplied.sound.of_peek peek
    have offered : (staged.take count).length = count := by
      have few := peeked.count_eq
      rw [List.length_take, peeked.length_staged]
      omega
    have less : script.due < connection.channel.channel.due := by
      rcases (Scripted.due_write inner).2 with less | all
      · exact less
      · exact absurd ((Transfer.progressed.inj all).trans offered) part
    right
    show script.due + (if connection.phase = .writing then 1 else 0) < connection.channel.channel.due + _
    omega

end Connection

namespace Slot

structure Relaying (input : Bytes) (room capacity : Nat) (slot : Slot (Recorded Scripted)) : Prop where
  balanced : slot.connection.Balanced Scripted.Plain room capacity
  steady : slot.connection.channel.channel.Steady
  received : slot.connection.channel.delivered ++ slot.connection.channel.channel.pending = input
  sent : slot.connection.channel.channel.sent = slot.connection.channel.transmitted
  waits : slot.connection.interest = .waitingFor slot.connection.phase.direction
  alive : slot.ready.hangup = false
  writable : slot.ready.writable = true
  readable : slot.ready.readable = true ∨ slot.connection.channel.channel.arrivals = []

variable {input : Bytes} {room capacity : Nat} {slot : Slot (Recorded Scripted)}

theorem Relaying.supplied (relaying : slot.Relaying input room capacity) : slot.connection.Supplied where
  sound := relaying.balanced.echoing.sound
  busy := relaying.balanced.writing_iff.mp

theorem Relaying.turned (positive : 0 < room) (fits : room ≤ capacity)
    (relaying : slot.Relaying input room capacity) {scratch : Bytes} (sized : scratch.length = room)
    {turn : Turn (Recorded Scripted)} (turned : slot.connection.Turned slot.ready scratch turn) :
    turn.verdict = .keep ∧ turn.slot.Relaying input room capacity := by
  have honest := Scripted.honest_plain.within room
  have roomy : scratch ≠ [] := List.ne_nil_of_length_pos (sized ▸ positive)
  have balanced := (relaying.balanced.turned honest positive fits sized turned).1
  obtain ⟨before, steady, received, sent, waits, alive, writable, readable⟩ := relaying
  cases turned with
  | hungUp hangup =>
    rw [alive] at hangup
    cases hangup
  | idle => exact ⟨rfl, balanced, steady, received, sent, waits, alive, writable, readable⟩
  | readBlocked roused reading answer =>
    obtain ⟨script, inner, rfl⟩ := Recorded.of_read answer
    obtain ⟨next, same, moved, ⟨blocked, exhausted⟩ | ⟨count, -, moving⟩⟩ := steady.read roomy inner
    · cases blocked
      refine ⟨rfl, balanced, next, ?_, ?_, ?_, ?_, ?_, .inr exhausted⟩
      · simpa [Connection.holdUp, Turn.slot, ← moved] using received
      · simpa [Connection.holdUp, Turn.slot, same] using sent
      · simp [Connection.holdUp, Turn.slot, reading, Phase.direction]
      · simp [Connection.holdUp, Turn.slot, Readiness.hangup_without, alive]
      · simp [Connection.holdUp, Turn.slot, Readiness.without, writable, Readiness.ofDirection]
    · cases moving
  | readFailed roused reading answer =>
    obtain ⟨script, inner, rfl⟩ := Recorded.of_read answer
    obtain ⟨-, -, -, ⟨blocked, -⟩ | ⟨count, -, moving⟩⟩ := steady.read roomy inner
    · cases blocked
    · cases moving
  | readEnded roused reading answer =>
    obtain ⟨script, inner, rfl⟩ := Recorded.of_read answer
    obtain ⟨-, -, -, ⟨blocked, -⟩ | ⟨count, some, moving⟩⟩ := steady.read roomy inner
    · cases blocked
    · cases moving
      exact absurd rfl some
  | @stored count filled ring channel roused reading answer some put =>
    obtain ⟨script, inner, rfl⟩ := Recorded.of_read answer
    obtain ⟨next, same, moved, -⟩ := steady.read roomy inner
    refine ⟨rfl, balanced, next, ?_, ?_, rfl, alive, writable, ?_⟩
    · simpa [Turn.slot, ← moved] using received
    · simpa [Turn.slot, same] using sent
    · have met := roused.met
      rw [waits, Readiness.meets_waitingFor, alive, Bool.or_false, reading] at met
      exact .inl met
  | overrun roused reading answer some put short =>
    exact absurd (before.put_all honest fits reading sized answer put).1 short
  | drained roused writing empty =>
    rw [before.writing_iff.mp writing] at empty
    cases empty
  | writeBlocked roused writing held peek answer | writeFailed roused writing held peek answer =>
    obtain ⟨script, inner, rfl⟩ := Recorded.of_write answer
    obtain ⟨-, -, -, count, moving⟩ := steady.write inner
    cases moving
  | sent roused writing held peek answer =>
    obtain ⟨script, inner, rfl⟩ := Recorded.of_write answer
    obtain ⟨next, same, moved, -⟩ := steady.write inner
    refine ⟨rfl, balanced, next, ?_, ?_, rfl, alive, writable, ?_⟩
    · simpa [Turn.slot, Scripted.pending, same] using received
    · simpa [Turn.slot, moved] using sent
    · simpa [Turn.slot, same] using readable
  | sentPart roused writing held peek answer part =>
    obtain ⟨script, inner, rfl⟩ := Recorded.of_write answer
    obtain ⟨next, same, moved, -⟩ := steady.write inner
    refine ⟨rfl, balanced, next, ?_, ?_, waits, alive, writable, ?_⟩
    · simpa [Turn.slot, Scripted.pending, same] using received
    · simpa [Turn.slot, moved] using sent
    · simpa [Turn.slot, same] using readable

theorem Relaying.notify (positive : 0 < room) (fits : room ≤ capacity)
    (relaying : slot.Relaying input room capacity) {scratch : Bytes} (sized : scratch.length = room) :
    (slot.notify scratch).verdict = .keep ∧ (slot.notify scratch).slot.Relaying input room capacity ∧
      (slot.notify scratch).scratch.length = room := by
  have turned := slot.connection.turned_notify slot.ready scratch
  have honest := Scripted.honest_plain.within room
  obtain ⟨kept, still⟩ := relaying.turned positive fits sized turned
  exact ⟨kept, still, (relaying.balanced.turned honest positive fits sized turned).2⟩

theorem Relaying.at_rest (relaying : slot.Relaying input room capacity)
    (idle : slot.isActionable = false) :
    slot.connection.channel.channel.sent = input ∧ slot.connection.channel.channel.arrivals = [] ∧
      slot.connection.ring.isEmpty = true ∧ slot.connection.phase = .reading ∧
      slot.connection.interest = .waitingFor .read ∧ slot.ready = .ofDirection .write := by
  obtain ⟨balanced, steady, received, sent, waits, alive, writable, readable⟩ := relaying
  have unmet : slot.ready.allows slot.connection.phase.direction = false := by
    simpa [isActionable, Connection.isActionable, waits, Readiness.meets_waitingFor, alive] using idle
  have reading : slot.connection.phase = .reading := by
    cases phase : slot.connection.phase with
    | reading => rfl
    | writing =>
      rw [phase] at unmet
      exact absurd (writable.symm.trans unmet) (by decide)
  rw [reading] at unmet waits
  have exhausted : slot.connection.channel.channel.arrivals = [] := by
    rcases readable with readable | exhausted
    · exact absurd (readable.symm.trans unmet) (by decide)
    · exact exhausted
  have empty := balanced.reading_iff.mp reading
  have conserved := balanced.echoing.conserved
  rw [balanced.echoing.sound.contents_eq_nil_iff.mpr empty, List.append_nil] at conserved
  refine ⟨?_, exhausted, empty, reading, waits, ?_⟩
  · rw [sent, conserved, ← received, Scripted.pending, exhausted, List.flatMap_nil, List.append_nil]
  · have unread : slot.ready.readable = false := unmet
    calc slot.ready = ⟨slot.ready.readable, slot.ready.writable, slot.ready.hangup⟩ := rfl
      _ = .ofDirection .write := by rw [unread, writable, alive]; rfl

def awake {C : Type} (channel : C) (capacity : Nat) : Slot C :=
  ⟨.new channel capacity, ⟨true, true, false⟩⟩

theorem relaying_awake {pieces : List Bytes} (whole : ∀ piece ∈ pieces, piece ≠ []) (limits : List Nat)
    (room capacity : Nat) :
    Relaying pieces.flatten room capacity
      (awake { channel := Scripted.ofPieces pieces limits } capacity) := by
  have steady := Scripted.steady_ofPieces whole limits
  refine ⟨Connection.balanced_new steady.plain 0, steady, ?_, rfl, rfl, rfl, rfl, .inl rfl⟩
  exact Scripted.pending_ofPieces pieces limits

theorem relayed {pieces : List Bytes} (whole : ∀ piece ∈ pieces, piece ≠ []) (limits : List Nat)
    {capacity : Nat} {scratch : Bytes} (roomy : 1 ≤ scratch.length) (fits : scratch.length ≤ capacity) :
    ∃ rounds last, Settles (awake (Scripted.ofPieces pieces limits) capacity) scratch rounds .keep last ∧
      last.connection.channel.sent = pieces.flatten ∧ last.connection.channel.arrivals = [] ∧
      last.connection.ring.isEmpty = true ∧ last.connection.phase = .reading ∧
      last.connection.interest = .waitingFor .read ∧ last.ready = .ofDirection .write := by
  let Invariant (slot : Slot (Recorded Scripted)) (left : Bytes) : Prop :=
    slot.Relaying pieces.flatten scratch.length capacity ∧ left.length = scratch.length
  have initially : Invariant (awake { channel := Scripted.ofPieces pieces limits } capacity) scratch :=
    ⟨relaying_awake whole limits scratch.length capacity, rfl⟩
  have step : ∀ slot left, Invariant slot left → (slot.notify left).verdict = .keep ∧
      Invariant (slot.notify left).slot (slot.notify left).scratch := by
    intro slot left ⟨relaying, sized⟩
    exact relaying.notify roomy fits sized
  have lessens : ∀ slot left, Invariant slot left → slot.isActionable = true →
      (slot.notify left).verdict = .keep →
        Invariant (slot.notify left).slot (slot.notify left).scratch ∧
          ((slot.notify left).slot.isActionable = false ∨
            (slot.notify left).connection.work < slot.connection.work) := by
    intro slot left before busy kept
    have turned := slot.connection.turned_notify slot.ready left
    exact ⟨(step slot left before).2, turned.work_lt before.1.supplied busy kept⟩
  obtain ⟨rounds, verdict, last, run, -⟩ :=
    settles_within (fun slot => slot.connection.work) lessens initially
  obtain ⟨rfl, idle, left, relaying, -⟩ := run.rests step initially
  exact ⟨rounds, last.bare, run.bare, relaying.at_rest idle⟩

-- Whatever the pieces in which the input comes, the limits on what is taken and the sizes of store and
-- staging area: left to itself, the connection comes to rest with all of the input sent back.
theorem rests_with_all_sent_back {pieces : List Bytes} (whole : ∀ piece ∈ pieces, piece ≠ [])
    (limits : List Nat) {capacity : Nat} {scratch : Bytes} (roomy : 1 ≤ scratch.length)
    (fits : scratch.length ≤ capacity) :
    (∃ rounds last, Settles (awake (Scripted.ofPieces pieces limits) capacity) scratch rounds .keep last ∧
      last.connection.channel.sent = pieces.flatten ∧ last.connection.channel.arrivals = [] ∧
      last.connection.ring.isEmpty = true ∧ last.connection.phase = .reading ∧
      last.connection.interest = .waitingFor .read ∧ last.ready = .ofDirection .write) ∧
    ∀ others : List Bytes, others.flatten = pieces.flatten → (∀ piece ∈ others, piece ≠ []) →
      ∀ (otherLimits : List Nat) (otherCapacity : Nat) (otherScratch : Bytes),
        1 ≤ otherScratch.length → otherScratch.length ≤ otherCapacity →
        ∀ rounds verdict last, Settles (awake (Scripted.ofPieces others otherLimits) otherCapacity)
            otherScratch rounds verdict last →
          last.connection.channel.sent = pieces.flatten := by
  refine ⟨relayed whole limits roomy fits, ?_⟩
  intro others same otherWhole otherLimits otherCapacity otherScratch otherRoomy otherFits rounds verdict
    last run
  obtain ⟨_, final, course, sent, -⟩ := relayed otherWhole otherLimits otherRoomy otherFits
  obtain ⟨-, -, rfl⟩ := run.unique course
  rw [sent, same]

-- A piece that needs two reads, a write that takes nothing, one that takes a byte of two, and the same
-- bytes in other pieces.
theorem rests_with_all_sent_back_of_two_scripts :
    let pieces : List Bytes := [[1, 2, 3], [4]]
    let others : List Bytes := [[1], [2, 3, 4]]
    (∀ piece ∈ pieces, piece ≠ []) ∧ (∀ piece ∈ others, piece ≠ []) ∧
      (∃ rounds last, Settles (awake (Scripted.ofPieces pieces [0, 1]) 3) [0, 0] rounds .keep last ∧
        last.connection.channel.sent = [1, 2, 3, 4] ∧ last.ready = .ofDirection .write) ∧
      ∀ rounds verdict last,
        Settles (awake (Scripted.ofPieces others []) 2) [7] rounds verdict last →
          last.connection.channel.sent = [1, 2, 3, 4] := by
  intro pieces others
  have whole : ∀ piece ∈ pieces, piece ≠ [] := by decide
  have otherWhole : ∀ piece ∈ others, piece ≠ [] := by decide
  have roomy : 1 ≤ ([0, 0] : Bytes).length := by decide
  have fits : ([0, 0] : Bytes).length ≤ 3 := by decide
  obtain ⟨⟨rounds, last, course, sent, -, -, -, -, ready⟩, alike⟩ :=
    rests_with_all_sent_back whole [0, 1] roomy fits
  refine ⟨whole, otherWhole, ⟨rounds, last, course, sent, ready⟩, ?_⟩
  exact alike others rfl otherWhole [] 2 [7] (by decide) (by decide)

end Slot

end SecureEcho
