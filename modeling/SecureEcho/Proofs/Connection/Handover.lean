import SecureEcho.Proofs.Channel.Tally
import SecureEcho.Proofs.Connection.Echo
import SecureEcho.Session

namespace SecureEcho

namespace Connection

variable {S : Type}

-- The session has taken what was confirmed, and of what is held the part that the channel owes.
structure Entrusting (room : Nat) (connection : Connection (Recorded (SecureChannel (Tallied S)))) :
    Prop where
  taken : connection.channel.channel.session.taken =
    connection.channel.transmitted ++ connection.ring.contents.take connection.channel.channel.unflushed
  owed : connection.channel.channel.unflushed ≤ min room connection.ring.length
  settled : connection.phase = .reading → connection.channel.channel.unflushed = 0
  within : connection.channel.WithinOffers

variable {room : Nat} {connection : Connection (Recorded (SecureChannel (Tallied S)))}

theorem entrusting_new {session : S} {socket : Socket} {peer : Endpoint}
    {channel : SecureChannel (Tallied S)}
    (accepted : SecureChannel.accept (⟨session, []⟩ : Tallied S) socket peer = .ok channel)
    (capacity : Nat) : (new ({ channel } : Recorded _) capacity).Entrusting room := by
  have untouched : channel.session.taken = [] ∧ channel.unflushed = 0 := by
    rcases dialled : socket.setNoDelay with why | dialled
    all_goals
      simp only [SecureChannel.accept, dialled] at accepted
      cases accepted
    exact ⟨rfl, rfl⟩
  refine ⟨?_, ?_, fun _ => untouched.2, ?_⟩
  · show channel.session.taken = [] ++ (Ring.ofCapacity capacity).contents.take channel.unflushed
    rw [untouched.1, Ring.contents_ofCapacity, List.take_nil, List.append_nil]
  · show channel.unflushed ≤ _
    rw [untouched.2]
    exact Nat.zero_le _
  · intro offer count member
    cases member

variable [Session S]

-- While reading nothing is owed, so whatever a read does to the store leaves the account alone.
theorem Entrusting.read (entrusting : connection.Entrusting room) (reading : connection.phase = .reading)
    {scratch filled : Bytes} {outcome : Transfer} {channel : SecureChannel (Tallied S)}
    (inner : Channel.read connection.channel.channel scratch = (outcome, filled, channel))
    (phase : Phase) (ring : Ring) (interest : Readiness) :
    (⟨phase, ring, interest, connection.channel.after channel
      (.read scratch.length outcome (outcome.moved filled))⟩ : Connection _).Entrusting room := by
  obtain ⟨kept, owed⟩ := Tallied.taken_read connection.channel.channel scratch
  have same : (connection.channel.channel.read scratch).2.2 = channel := congrArg (·.2.2) inner
  rw [same] at kept owed
  rw [entrusting.settled reading] at owed
  have taken := entrusting.taken
  rw [entrusting.settled reading, List.take_zero, List.append_nil] at taken
  refine ⟨?_, ?_, fun _ => owed, entrusting.within.after (by simp)⟩
  · show channel.session.taken = _ ++ ring.contents.take channel.unflushed
    rw [kept, taken, owed]
    simp
  · show channel.unflushed ≤ _
    rw [owed]
    exact Nat.zero_le _

theorem Entrusting.write (takes : Session.TakesFirst S) (entrusting : connection.Entrusting room)
    (sound : connection.ring.Sound) {scratch staged : Bytes} (sized : scratch.length = room)
    {count : Nat} {ring : Ring} (peek : connection.ring.peek scratch = (count, staged, ring))
    {outcome : Transfer} {channel : SecureChannel (Tallied S)}
    (inner : Channel.write connection.channel.channel (staged.take count) = (outcome, channel)) :
    ∃ moved, moved ≤ min room connection.ring.length ∧
      channel.session.taken = connection.channel.transmitted ++ (staged.take count).take moved ∧
      (staged.take count).take moved = connection.ring.contents.take moved ∧
      (outcome = .progressed moved ∧ channel.unflushed = 0 ∨
        (∀ more, outcome ≠ .progressed more) ∧ channel.unflushed = moved) := by
  have offer := sound.take_peek scratch
  have size := Ring.peek_count connection.ring scratch
  rw [peek] at offer size
  have size : count = min room connection.ring.length := by rw [← sized]; exact size
  have length : (staged.take count).length = count := by
    rw [offer, List.length_take, sound.length_contents]
    omega
  have part : ∀ moved, moved ≤ count →
      (staged.take count).take moved = connection.ring.contents.take moved := by
    intro moved few
    rw [offer, List.take_take, Nat.min_eq_left few]
  have owed := entrusting.owed
  rw [← size] at owed
  have taken := entrusting.taken
  rw [← part _ owed] at taken
  obtain ⟨moved, few, handed, settled⟩ := Tallied.of_write takes (by omega) taken inner
  exact ⟨moved, by omega, handed, part moved (by omega), settled⟩

theorem Entrusting.unconfirmed (takes : Session.TakesFirst S) (entrusting : connection.Entrusting room)
    (sound : connection.ring.Sound) (writing : connection.phase = .writing) {scratch staged : Bytes}
    (sized : scratch.length = room) {count : Nat} {ring : Ring}
    (peek : connection.ring.peek scratch = (count, staged, ring)) {outcome : Transfer}
    {channel : SecureChannel (Tallied S)} (stuck : ∀ more, outcome ≠ .progressed more)
    (inner : Channel.write connection.channel.channel (staged.take count) = (outcome, channel))
    (interest : Readiness) :
    (⟨connection.phase, ring, interest, connection.channel.after channel
      (.write (staged.take count) outcome)⟩ : Connection _).Entrusting room := by
  obtain ⟨moved, few, handed, part, settled⟩ := entrusting.write takes sound sized peek inner
  have contents := Ring.contents_peek connection.ring scratch
  have length := Ring.length_peek connection.ring scratch
  rw [peek] at contents length
  have owed : channel.unflushed = moved := by
    rcases settled with ⟨confirmed, -⟩ | ⟨-, owed⟩
    · exact absurd confirmed (stuck moved)
    · exact owed
  have nothing : outcome.moved (staged.take count) = [] := by
    cases outcome with
    | progressed more => exact absurd rfl (stuck more)
    | blocked want => rfl
    | failed why => rfl
  refine ⟨?_, ?_, fun reading => ?_, entrusting.within.after ?_⟩
  · show channel.session.taken = _ ++ ring.contents.take channel.unflushed
    rw [handed, part, owed, contents]
    simp [nothing]
  · show channel.unflushed ≤ min room ring.length
    rw [owed, length]
    exact few
  · rw [writing] at reading
    cases reading
  · intro offer more same
    cases same
    exact absurd rfl (stuck more)

theorem Entrusting.confirmed (takes : Session.TakesFirst S) (entrusting : connection.Entrusting room)
    (sound : connection.ring.Sound) {scratch staged : Bytes} (sized : scratch.length = room)
    {count : Nat} {ring : Ring} (peek : connection.ring.peek scratch = (count, staged, ring))
    {moved : Nat} {channel : SecureChannel (Tallied S)}
    (inner : Channel.write connection.channel.channel (staged.take count) = (.progressed moved, channel))
    (phase : Phase) (left : Ring) (interest : Readiness) :
    (⟨phase, left, interest, connection.channel.after channel
      (.write (staged.take count) (.progressed moved))⟩ : Connection _).Entrusting room := by
  obtain ⟨taken, few, handed, part, settled⟩ := entrusting.write takes sound sized peek inner
  have offer := sound.take_peek scratch
  have size := Ring.peek_count connection.ring scratch
  rw [peek] at offer size
  obtain ⟨same, settled⟩ : moved = taken ∧ channel.unflushed = 0 := by
    rcases settled with ⟨confirmed, settled⟩ | ⟨stuck, -⟩
    · exact ⟨Transfer.progressed.inj confirmed, settled⟩
    · exact absurd rfl (stuck moved)
  refine ⟨?_, ?_, fun _ => settled, entrusting.within.after ?_⟩
  · show channel.session.taken = _ ++ left.contents.take channel.unflushed
    rw [handed, settled, same]
    simp
  · show channel.unflushed ≤ _
    rw [settled]
    exact Nat.zero_le _
  · intro _ _ last
    cases last
    rw [offer, List.length_take, sound.length_contents]
    have size : count = min scratch.length connection.ring.length := size
    omega

theorem Entrusting.turned (takes : Session.TakesFirst S) (entrusting : connection.Entrusting room)
    (sound : connection.ring.Sound) {ready : Readiness} {scratch : Bytes}
    (sized : scratch.length = room) {turn : Turn (Recorded (SecureChannel (Tallied S)))}
    (turned : Turned connection ready scratch turn) : turn.connection.Entrusting room := by
  cases turned with
  | hungUp hangup => exact entrusting
  | idle alive unmet => exact entrusting
  | readBlocked roused reading answer | readFailed roused reading answer
  | readEnded roused reading answer | stored roused reading answer
  | overrun roused reading answer =>
    obtain ⟨channel, inner, rfl⟩ := Recorded.of_read answer
    exact entrusting.read reading inner _ _ _
  | drained roused writing empty => exact entrusting
  | writeBlocked roused writing held peek answer | writeFailed roused writing held peek answer =>
    obtain ⟨channel, inner, rfl⟩ := Recorded.of_write answer
    exact entrusting.unconfirmed takes sound writing sized peek (by simp) inner _
  | sent roused writing held peek answer | sentPart roused writing held peek answer =>
    obtain ⟨channel, inner, rfl⟩ := Recorded.of_write answer
    exact entrusting.confirmed takes sound sized peek inner _ _ _

end Connection

namespace Slot

variable {S : Type} [Session S]

theorem Kept.entrusting (takes : Session.TakesFirst S) {session : S} {socket : Socket}
    {peer : Endpoint} {channel : SecureChannel (Tallied S)}
    (accepted : SecureChannel.accept (⟨session, []⟩ : Tallied S) socket peer = .ok channel)
    {capacity room : Nat} (positive : 0 < room) {prompts : List Prompt}
    {slot : Slot (Recorded (SecureChannel (Tallied S)))}
    (run : Kept (fresh channel capacity) prompts slot)
    (sized : ∀ prompt ∈ prompts, prompt.scratch.length = room) :
    slot.connection.Echoing ∧ slot.connection.Entrusting room := by
  refine run.invariant (fun slot => slot.connection.Echoing ∧ slot.connection.Entrusting room)
    ⟨Connection.echoing_new channel 0 capacity, Connection.entrusting_new accepted capacity⟩ ?_ sized
  intro slot prompt sized before kept
  obtain ⟨echoing, entrusting⟩ := before
  have turned := slot.connection.turned_notify (slot.ready.union prompt.seen) prompt.scratch
  have roomy : prompt.scratch ≠ [] := List.ne_nil_of_length_pos (sized ▸ positive)
  refine ⟨?_, entrusting.turned takes echoing.sound sized turned⟩
  rcases echoing.turned roomy turned with still | ⟨verdict, -⟩
  · exact still
  · rw [turn, verdict] at kept
    cases kept

theorem handed_append_unowed_eq_received (takes : Session.TakesFirst S) {session : S}
    {socket : Socket} {peer : Endpoint} {channel : SecureChannel (Tallied S)}
    (accepted : SecureChannel.accept (⟨session, []⟩ : Tallied S) socket peer = .ok channel)
    (capacity : Nat) {room : Nat} (positive : 0 < room) {prompts : List Prompt}
    {slot : Slot (Recorded (SecureChannel (Tallied S)))}
    (run : Kept (fresh channel capacity) prompts slot)
    (sized : ∀ prompt ∈ prompts, prompt.scratch.length = room) :
    let record := slot.connection.channel
    let held := slot.connection.ring.contents
    record.channel.session.taken ++ held.drop record.channel.unflushed = record.delivered ∧
      record.channel.session.taken = record.transmitted ++ held.take record.channel.unflushed ∧
      record.channel.unflushed ≤ slot.connection.buffered ∧
      (slot.connection.phase = .reading → record.channel.unflushed = 0) ∧
      record.WithinOffers ∧
      ∀ prompt : Prompt, prompt.scratch.length = room →
        (slot.turn prompt).connection.channel.WithinOffers := by
  intro record held
  obtain ⟨echoing, entrusting⟩ := run.entrusting takes accepted positive sized
  refine ⟨?_, entrusting.taken, ?_, entrusting.settled, entrusting.within, ?_⟩
  · rw [entrusting.taken, List.append_assoc, List.take_append_drop]
    exact echoing.conserved
  · exact Nat.le_trans entrusting.owed (Nat.min_le_right _ _)
  · intro prompt sized
    exact (entrusting.turned takes echoing.sound sized (Connection.turned_notify _ _ _)).within

-- The session takes two bytes of three, and the socket holds up the flush twice, halfway once.
theorem handed_append_unowed_under_backpressure :
    let session : ClearSession := { capacity := 2 }
    let socket : Socket :=
      { incoming := [.done [1, 7, 1, 8, 1, 9]], room := [.blocked, .done 1, .blocked, .done 9] }
    let channel : SecureChannel (Tallied ClearSession) :=
      { session := ⟨session, []⟩, socket := { socket with noDelay := true }, peer := ⟨.loopback, 0⟩ }
    let prompts : List Prompt := List.replicate 3 ⟨⟨true, true, false⟩, [0, 0, 0]⟩
    Session.TakesFirst ClearSession ∧
      SecureChannel.accept (⟨session, []⟩ : Tallied _) socket ⟨.loopback, 0⟩ = .ok channel ∧
      (∀ prompt ∈ prompts, prompt.scratch.length = 3) ∧
      ∃ slot, Kept (fresh channel 4) prompts slot ∧
        slot.connection.channel.channel.unflushed = 2 ∧
        slot.connection.channel.channel.session.taken ++ slot.connection.ring.contents.drop 2 =
          slot.connection.channel.delivered := by
  intro session socket channel prompts
  have takes : Session.TakesFirst ClearSession := by
    intro session later bytes count accepted
    cases accepted
    exact List.length_take_le' _ _
  have accepted : SecureChannel.accept (⟨session, []⟩ : Tallied _) socket ⟨.loopback, 0⟩ = .ok channel := rfl
  have sized : ∀ prompt ∈ prompts, prompt.scratch.length = 3 := by decide
  have ran : (prompts.foldlM keep? (fresh channel 4)).map (·.connection.channel.channel.unflushed) =
      some 2 := by decide +kernel
  obtain ⟨slot, run, owed⟩ := Option.map_eq_some_iff.mp ran
  have handed := handed_append_unowed_eq_received takes accepted 4 (by decide) (kept_exact.mp run) sized
  exact ⟨takes, accepted, sized, slot, kept_exact.mp run, owed, owed ▸ handed.1⟩

end Slot

end SecureEcho
