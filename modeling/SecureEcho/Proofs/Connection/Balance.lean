import SecureEcho.Proofs.Channel.Honest
import SecureEcho.Proofs.Connection.Closing
import SecureEcho.Proofs.Connection.Echo

namespace SecureEcho

namespace Connection

variable {C : Type}

section Turned

variable [Channel C] {connection : Connection C} {ready : Readiness} {scratch : Bytes} {turn : Turn C}

theorem Turned.good {Good : C → Prop} {room : Nat} (honest : Channel.HonestWithin room Good)
    (good : Good connection.channel) (sized : scratch.length = room)
    (turned : Turned connection ready scratch turn) : Good turn.connection.channel := by
  cases turned with
  | hungUp | idle | drained => exact good
  | readBlocked roused reading answer | readFailed roused reading answer
  | readEnded roused reading answer | stored roused reading answer
  | overrun roused reading answer => exact (honest.read sized good answer).1
  | writeBlocked roused writing held peek answer | writeFailed roused writing held peek answer
  | sent roused writing held peek answer | sentPart roused writing held peek answer =>
    exact (honest.write good answer).1

theorem Turned.length_scratch {Good : C → Prop} {room : Nat} (honest : Channel.HonestWithin room Good)
    (good : Good connection.channel) (sized : scratch.length = room) (sound : connection.ring.Sound)
    (turned : Turned connection ready scratch turn) : turn.scratch.length = room := by
  cases turned with
  | hungUp | idle | drained => exact sized
  | readBlocked roused reading answer | readFailed roused reading answer
  | readEnded roused reading answer | stored roused reading answer
  | overrun roused reading answer => exact (honest.read sized good answer).2.1
  | writeBlocked roused writing held peek answer | writeFailed roused writing held peek answer
  | sent roused writing held peek answer | sentPart roused writing held peek answer =>
    exact (sound.of_peek peek).length_staged.trans sized

theorem Turned.size_eq (sound : connection.ring.Sound)
    (turned : Turned connection ready scratch turn) :
    turn.connection.ring.size = connection.ring.size := by
  cases turned with
  | hungUp | idle | drained | readBlocked | readFailed | readEnded => rfl
  | @stored count filled ring channel roused reading answer some put
  | @overrun count stored filled ring channel roused reading answer some put =>
    have size := Ring.size_put sound (filled.take count)
    rwa [put] at size
  | writeBlocked roused writing held peek answer | writeFailed roused writing held peek answer
  | sent roused writing held peek answer | sentPart roused writing held peek answer =>
    exact (sound.of_peek peek).size_eq

theorem Turned.waits (waits : ∃ direction, connection.interest = .waitingFor direction)
    (turned : Turned connection ready scratch turn) :
    ∃ direction, turn.connection.interest = .waitingFor direction := by
  cases turned with
  | hungUp | idle | readFailed | readEnded | overrun | drained | writeFailed | sentPart => exact waits
  | @readBlocked want | @writeBlocked want => exact ⟨want, rfl⟩
  | stored => exact ⟨.write, rfl⟩
  | sent => exact ⟨.read, rfl⟩

end Turned

-- `room` is the length of the staging area, which is the same for every notification.
structure Balanced (Good : C → Prop) (room bufferSize : Nat) (connection : Connection (Recorded C)) :
    Prop where
  echoing : connection.Echoing
  reading_iff : connection.phase = .reading ↔ connection.ring.isEmpty = true
  held_le : connection.ring.length ≤ room
  capacity_eq : connection.ring.capacity = bufferSize
  good : Good connection.channel.channel

variable {Good : C → Prop} {room bufferSize : Nat} {connection : Connection (Recorded C)}

theorem balanced_new {channel : C} (good : Good channel) (serial : Nat) :
    (new ({ channel, serial } : Recorded C) bufferSize).Balanced Good room bufferSize where
  echoing := echoing_new channel serial bufferSize
  reading_iff := by simp [new, Ring.ofCapacity, Ring.isEmpty]
  held_le := by simp [new, Ring.ofCapacity, Ring.length, Ring.distance]
  capacity_eq := by simp [new, Ring.ofCapacity, Ring.capacity, Ring.size]
  good := good

theorem Balanced.writing_iff (balanced : connection.Balanced Good room bufferSize) :
    connection.phase = .writing ↔ connection.ring.isEmpty = false := by
  have reading := balanced.reading_iff
  cases phase : connection.phase <;> cases empty : connection.ring.isEmpty <;> simp_all

theorem Balanced.length_eq_zero (balanced : connection.Balanced Good room bufferSize)
    (reading : connection.phase = .reading) : connection.ring.length = 0 :=
  balanced.echoing.sound.isEmpty_iff.mp (balanced.reading_iff.mp reading)

theorem Balanced.buffered_eq (balanced : connection.Balanced Good room bufferSize) :
    connection.buffered =
      connection.channel.delivered.length - connection.channel.transmitted.length := by
  have split := congrArg List.length balanced.echoing.conserved
  rw [List.length_append, balanced.echoing.sound.length_contents] at split
  unfold buffered
  omega

-- An offer is all that is held, because the staging area has room for it.
theorem Balanced.peek_all (balanced : connection.Balanced Good room bufferSize) {scratch staged : Bytes}
    (sized : scratch.length = room) {count : Nat} {ring : Ring}
    (peek : connection.ring.peek scratch = (count, staged, ring)) :
    count = connection.ring.length ∧ staged.take count = connection.ring.contents := by
  have sound := balanced.echoing.sound
  have peeked := sound.of_peek peek
  have held := balanced.held_le
  have all : count = connection.ring.length := by
    rw [peeked.count_eq]
    omega
  refine ⟨all, peeked.take_staged.trans (List.take_of_length_le ?_)⟩
  rw [sound.length_contents]
  exact Nat.le_of_eq all.symm

theorem Balanced.length_consume (balanced : connection.Balanced Good room bufferSize)
    (held : connection.ring.isEmpty = false) {scratch staged : Bytes} (sized : scratch.length = room)
    {count taken : Nat} {ring : Ring} (peek : connection.ring.peek scratch = (count, staged, ring))
    (few : taken ≤ count) : (ring.consume taken).2.length = connection.ring.length - taken := by
  have sound := balanced.echoing.sound
  have peeked := sound.of_peek peek
  have all := (balanced.peek_all sized peek).1
  have some := sound.length_pos held
  rw [peeked.sound.length_consume, peeked.length_eq, peeked.peeked_eq (by omega), Nat.min_eq_left few]

variable [Channel C]

theorem Balanced.put_all (honest : Channel.HonestWithin room Good) (fits : room ≤ bufferSize)
    (balanced : connection.Balanced Good room bufferSize) (reading : connection.phase = .reading)
    {scratch filled : Bytes} (sized : scratch.length = room) {count stored : Nat} {ring : Ring}
    {channel : Recorded C}
    (answer : Channel.read connection.channel scratch = (.progressed count, filled, channel))
    (put : connection.ring.put (filled.take count) = (stored, ring)) :
    stored = count ∧ count ≤ room := by
  obtain ⟨-, length, within⟩ := honest.recorded.read sized balanced.good answer
  have within := within count rfl
  have empty := balanced.length_eq_zero reading
  have space := balanced.echoing.sound.length_add_free
  have capacity := balanced.capacity_eq
  have moved := Ring.put_count connection.ring (filled.take count)
  rw [put] at moved
  have moved : stored = min (filled.take count).length connection.ring.free := moved
  rw [List.length_take] at moved
  omega

theorem Balanced.no_overrun (honest : Channel.HonestWithin room Good) (fits : room ≤ bufferSize)
    (balanced : connection.Balanced Good room bufferSize) {ready : Readiness} {scratch : Bytes}
    (sized : scratch.length = room) {turn : Turn (Recorded C)}
    (turned : Turned connection ready scratch turn) (count stored : Nat) :
    Event.overrun count stored ∉ turn.events := by
  cases turned with
  | overrun roused reading answer some put short =>
    exact absurd (balanced.put_all honest fits reading sized answer put).1 short
  | _ => simp [holdUp]

theorem Balanced.shape (honest : Channel.HonestWithin room Good) (fits : room ≤ bufferSize)
    (balanced : connection.Balanced Good room bufferSize) {ready : Readiness} {scratch : Bytes}
    (sized : scratch.length = room) {turn : Turn (Recorded C)}
    (turned : Turned connection ready scratch turn) :
    (turn.connection.phase = .reading ↔ turn.connection.ring.length = 0) ∧
      turn.connection.ring.length ≤ room := by
  have sound := balanced.echoing.sound
  have before : connection.phase = .reading ↔ connection.ring.length = 0 := by
    rw [balanced.reading_iff, sound.isEmpty_iff]
  have held_le := balanced.held_le
  cases turned with
  | hungUp | idle | readBlocked | readFailed | readEnded => exact ⟨before, held_le⟩
  | @stored count filled ring channel roused reading answer some put =>
    have empty := before.mp reading
    have within := (balanced.put_all honest fits reading sized answer put).2
    have length := sound.length_put (filled.take count)
    rw [put] at length
    have length : ring.length = connection.ring.length + count := length
    refine ⟨⟨fun writing => (by cases writing), fun none => ?_⟩, ?_⟩
    · have none : ring.length = 0 := none
      omega
    · show ring.length ≤ room
      omega
  | overrun roused reading answer some put short =>
    exact absurd (balanced.put_all honest fits reading sized answer put).1 short
  | drained roused writing empty =>
    rw [balanced.writing_iff.mp writing] at empty
    cases empty
  | @writeBlocked want count staged ring channel roused writing held peek answer
  | @writeFailed why count staged ring channel roused writing held peek answer =>
    have length := (sound.of_peek peek).length_eq
    show (connection.phase = .reading ↔ ring.length = 0) ∧ ring.length ≤ room
    rw [length]
    exact ⟨before, held_le⟩
  | @sent count staged ring channel roused writing held peek answer =>
    have all := (balanced.peek_all sized peek).1
    have left := balanced.length_consume held sized peek (Nat.le_refl count)
    rw [all, Nat.sub_self, ← all] at left
    show (Phase.reading = .reading ↔ (ring.consume count).2.length = 0) ∧
      (ring.consume count).2.length ≤ room
    simp [left]
  | @sentPart count taken staged ring channel roused writing held peek answer part =>
    have all := (balanced.peek_all sized peek).1
    have offered := List.length_take_le count staged
    have few := (honest.recorded.write balanced.good answer).2 taken rfl
    have left := balanced.length_consume held sized peek (few.trans offered)
    show (connection.phase = .reading ↔ (ring.consume taken).2.length = 0) ∧
      (ring.consume taken).2.length ≤ room
    rw [writing, left]
    refine ⟨⟨fun reading => (by cases reading), fun none => ?_⟩, ?_⟩
    all_goals omega

theorem Balanced.offers_all (balanced : connection.Balanced Good room bufferSize) {ready : Readiness}
    {scratch : Bytes} (sized : scratch.length = room) {turn : Turn (Recorded C)}
    (turned : Turned connection ready scratch turn) {made : List Call}
    (calls : turn.connection.channel.calls = connection.channel.calls ++ made) {offer : Bytes}
    {outcome : Transfer} (member : .write offer outcome ∈ made) : offer = connection.ring.contents := by
  cases turned with
  | hungUp | idle | drained =>
    rw [List.self_eq_append_right.mp calls] at member
    cases member
  | readBlocked roused reading answer | readFailed roused reading answer
  | readEnded roused reading answer | stored roused reading answer
  | overrun roused reading answer =>
    obtain ⟨channel, inner, rfl⟩ := Recorded.of_read answer
    rw [← List.append_cancel_left calls] at member
    simp at member
  | writeBlocked roused writing held peek answer | writeFailed roused writing held peek answer
  | sent roused writing held peek answer | sentPart roused writing held peek answer =>
    obtain ⟨channel, inner, rfl⟩ := Recorded.of_write answer
    rw [← List.append_cancel_left calls] at member
    obtain ⟨rfl, -⟩ := Call.write.inj (List.mem_singleton.mp member)
    exact (balanced.peek_all sized peek).2

theorem Balanced.turned (honest : Channel.HonestWithin room Good) (positive : 0 < room) (fits : room ≤ bufferSize)
    (balanced : connection.Balanced Good room bufferSize) {ready : Readiness} {scratch : Bytes}
    (sized : scratch.length = room) {turn : Turn (Recorded C)}
    (turned : Turned connection ready scratch turn) :
    turn.connection.Balanced Good room bufferSize ∧ turn.scratch.length = room := by
  have roomy : scratch ≠ [] := List.ne_nil_of_length_pos (sized ▸ positive)
  have echoing : turn.connection.Echoing := by
    rcases balanced.echoing.turned_or_overran roomy turned with still | ⟨⟨count, stored, overran⟩, -⟩
    · exact still
    · exact absurd overran (balanced.no_overrun honest fits sized turned count stored)
  have sound := balanced.echoing.sound
  obtain ⟨reading_iff, held_le⟩ := balanced.shape honest fits sized turned
  rw [← echoing.sound.isEmpty_iff] at reading_iff
  refine ⟨⟨echoing, reading_iff, held_le, ?_, ?_⟩, ?_⟩
  · exact (congrArg (· - 1) (turned.size_eq sound)).trans balanced.capacity_eq
  · exact turned.good honest.recorded balanced.good sized
  · exact turned.length_scratch honest.recorded balanced.good sized sound

end Connection

namespace Slot

variable {C : Type} [Channel C] {Good : C → Prop} {room capacity : Nat}

-- Nothing is asked of the notifications but the length of their staging areas, so these hold also of a
-- connection that is notified after its end.
theorem phase_and_interest_follow_store (honest : Channel.HonestWithin room Good) {channel : C}
    (good : Good channel) (positive : 0 < room) (fits : room ≤ capacity) {prompts : List Prompt}
    (sized : ∀ prompt ∈ prompts, prompt.scratch.length = room) :
    let slot := (fresh channel capacity).notified prompts
    (slot.connection.phase = .reading ↔ slot.connection.ring.isEmpty = true) ∧
      (slot.connection.phase = .writing →
        1 ≤ slot.connection.buffered ∧ slot.connection.buffered ≤ room) ∧
      (∃! direction, slot.connection.interest = .waitingFor direction) ∧
      ∀ prompt : Prompt, prompt.scratch.length = room →
        (∀ made, (slot.turn prompt).connection.channel.calls = slot.connection.channel.calls ++ made →
          ∀ offer outcome, .write offer outcome ∈ made → offer = slot.connection.ring.contents) ∧
        ∀ count stored, .overrun count stored ∉ (slot.turn prompt).events := by
  intro slot
  have balanced : slot.connection.Balanced Good room capacity := by
    refine notified_invariant (fun slot => slot.connection.Balanced Good room capacity)
      (Connection.balanced_new good 0) ?_ sized
    intro slot prompt sized balanced
    exact (balanced.turned honest positive fits sized (Connection.turned_notify _ _ _)).1
  have waits : ∃ direction, slot.connection.interest = .waitingFor direction := by
    refine notified_invariant (fun slot => ∃ direction, slot.connection.interest = .waitingFor direction)
      ⟨.read, rfl⟩ ?_ sized
    intro slot prompt _ waits
    exact (Connection.turned_notify _ _ _).waits waits
  refine ⟨balanced.reading_iff, ?_, ?_, ?_⟩
  · intro writing
    exact ⟨balanced.echoing.sound.length_pos (balanced.writing_iff.mp writing), balanced.held_le⟩
  · obtain ⟨direction, waits⟩ := waits
    refine ⟨direction, waits, ?_⟩
    intro other same
    exact Readiness.waitingFor_inj (same.symm.trans waits)
  · intro prompt sized
    have turned := slot.connection.turned_notify (slot.ready.union prompt.seen) prompt.scratch
    refine ⟨?_, balanced.no_overrun honest fits sized turned⟩
    intro made calls offer outcome member
    exact balanced.offers_all sized turned calls member

-- The write that failed ended the connection, and the next one took a byte all the same.
theorem phase_and_interest_follow_store_after_failure :
    let channel : Scripted :=
      { arrivals := [.data [1, 2, 3]]
        uptakes := [.blocked .read, .failed ⟨.other, "write failed"⟩, .atMost 1] }
    let prompts : List Prompt := List.replicate 4 ⟨⟨true, true, false⟩, [0, 0]⟩
    let slot := (fresh channel 3).notified prompts
    Channel.HonestWithin 2 Scripted.Plain ∧ channel.Plain ∧
      (∀ prompt ∈ prompts, prompt.scratch.length = 2) ∧
      slot.connection.phase = .writing ∧ slot.connection.ring.contents = [2] ∧
      (1 ≤ slot.connection.buffered ∧ slot.connection.buffered ≤ 2) ∧
      (∃! direction, slot.connection.interest = .waitingFor direction) ∧
      ∀ prompt : Prompt, prompt.scratch.length = 2 →
        ∀ count stored, .overrun count stored ∉ (slot.turn prompt).events := by
  intro channel prompts slot
  have honest := Scripted.honest_plain.within 2
  have plain : channel.Plain := by simp [channel, Scripted.Plain]
  have sized : ∀ prompt ∈ prompts, prompt.scratch.length = 2 := by decide
  have writing : slot.connection.phase = .writing := by decide +kernel
  have left : slot.connection.ring.contents = [2] := by decide +kernel
  obtain ⟨-, held, waits, next⟩ :=
    phase_and_interest_follow_store honest plain (by decide) (by decide : 2 ≤ 3) sized
  exact ⟨honest, plain, sized, writing, left, held writing, waits, fun prompt fits => (next prompt fits).2⟩

end Slot

end SecureEcho
