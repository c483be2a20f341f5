import SecureEcho.Proofs.Connection.Relay

namespace SecureEcho

namespace Connection

theorem Turned.within {C : Type} [Channel C] {Good : C → Prop} {room : Nat}
    (honest : Channel.HonestWithin room Good) {connection : Connection (Recorded C)}
    (good : Good connection.channel.channel) (within : connection.channel.WithinOffers)
    {ready : Readiness} {scratch : Bytes} {turn : Turn (Recorded C)}
    (turned : Turned connection ready scratch turn) : turn.connection.channel.WithinOffers := by
  cases turned with
  | hungUp | idle | drained => exact within
  | readBlocked roused reading answer | readFailed roused reading answer
  | readEnded roused reading answer | stored roused reading answer
  | overrun roused reading answer =>
    obtain ⟨inner, -, rfl⟩ := Recorded.of_read answer
    exact within.after (by simp)
  | writeBlocked roused writing held peek answer | writeFailed roused writing held peek answer =>
    obtain ⟨inner, -, rfl⟩ := Recorded.of_write answer
    exact within.after (by simp)
  | sent roused writing held peek answer | sentPart roused writing held peek answer =>
    obtain ⟨inner, wrote, rfl⟩ := Recorded.of_write answer
    refine within.after fun offer count same => ?_
    cases same
    exact (honest.write good wrote).2 _ rfl

structure Playing (connection : Connection (Recorded Scripted)) : Prop where
  supplied : connection.Supplied
  plain : connection.channel.channel.Plain
  within : connection.channel.WithinOffers

variable {connection : Connection (Recorded Scripted)}

theorem playing_new {script : Scripted} (plain : script.Plain) (serial capacity : Nat) :
    (new { channel := script, serial } capacity : Connection (Recorded Scripted)).Playing where
  supplied := supplied_new _ capacity
  plain := plain
  within offer count member := by cases member

theorem Playing.turned (playing : connection.Playing) {ready : Readiness} {scratch : Bytes}
    {turn : Turn (Recorded Scripted)} (turned : Turned connection ready scratch turn)
    (kept : turn.verdict = .keep) : turn.connection.Playing := by
  have honest := Scripted.honest_plain.within scratch.length
  have within := turned.within honest playing.plain playing.within
  exact ⟨playing.supplied.turned turned kept within, turned.good honest.recorded playing.plain rfl, within⟩

end Connection

namespace Slot

theorem settles_of_playing {slot : Slot (Recorded Scripted)} (playing : slot.connection.Playing)
    (scratch : Bytes) :
    ∃ rounds verdict last, Settles slot scratch rounds verdict last ∧
      rounds ≤ slot.connection.work + 1 := by
  let Invariant (slot : Slot (Recorded Scripted)) (_ : Bytes) : Prop := slot.connection.Playing
  have lessens : ∀ slot left, Invariant slot left → slot.isActionable = true →
      (slot.notify left).verdict = .keep →
        Invariant (slot.notify left).slot (slot.notify left).scratch ∧
          ((slot.notify left).slot.isActionable = false ∨
            (slot.notify left).connection.work < slot.connection.work) := by
    intro slot left before busy kept
    have turned := slot.connection.turned_notify slot.ready left
    exact ⟨before.turned turned kept, turned.work_lt before.supplied busy kept⟩
  exact settles_within (fun slot => slot.connection.work) lessens playing

theorem settles_by_script (script : Scripted) (plain : script.Plain) (capacity : Nat)
    (ready : Readiness) (scratch : Bytes) :
    ∃ rounds verdict last, Settles ⟨.new script capacity, ready⟩ scratch rounds verdict last ∧
      rounds ≤ 2 * script.pending.length + script.arrivals.length + script.uptakes.length + 1 := by
  let slot : Slot (Recorded Scripted) := ⟨.new { channel := script } capacity, ready⟩
  have playing : slot.connection.Playing := Connection.playing_new plain 0 capacity
  obtain ⟨rounds, verdict, last, course, few⟩ := settles_of_playing playing scratch
  exact ⟨rounds, verdict, last.bare, course.bare, few⟩

-- A piece that needs two reads, a write that takes nothing, a write and a read that wait for the other
-- direction, and the end of the stream.
theorem settles_by_script_of_mixed_items :
    let script : Scripted :=
      { arrivals := [.data [1, 2, 3], .blocked .write, .data []]
        uptakes := [.atMost 0, .blocked .read, .atMost 1] }
    script.Plain ∧ ∃ rounds verdict last,
      Settles ⟨.new script 4, ⟨true, true, false⟩⟩ [0, 0] rounds verdict last ∧
        rounds ≤ 2 * 3 + 3 + 3 + 1 := by
  intro script
  have plain : script.Plain := by simp [script, Scripted.Plain]
  exact ⟨plain, settles_by_script script plain 4 ⟨true, true, false⟩ [0, 0]⟩

end Slot

end SecureEcho
