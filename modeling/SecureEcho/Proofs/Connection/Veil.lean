import SecureEcho.Proofs.Channel.Veil
import SecureEcho.Proofs.Connection.Closing
import SecureEcho.Proofs.Connection.Turn

namespace SecureEcho

namespace Connection

variable {C : Type}

def veil (shown : Nat → Bool) (connection : Connection (Recorded C)) : Connection (Recorded Unit) :=
  { phase := connection.phase
    ring := connection.ring.veil (shown connection.channel.serial)
    interest := connection.interest
    channel := connection.channel.veil shown }

structure Alike (shown : Nat → Bool) (Like : Bool → C → C → Prop)
    (one two : Connection (Recorded C)) : Prop where
  phase_eq : one.phase = two.phase
  interest_eq : one.interest = two.interest
  ring_eq : one.ring.veil (shown one.channel.serial) = two.ring.veil (shown one.channel.serial)
  sound : one.ring.Sound
  channel : Recorded.Alike shown Like one.channel two.channel

variable {shown : Nat → Bool} {Like : Bool → C → C → Prop} {one two : Connection (Recorded C)}

theorem Alike.veil_eq (alike : Alike shown Like one two) : one.veil shown = two.veil shown := by
  unfold veil
  rw [alike.phase_eq, alike.interest_eq, alike.ring_eq, alike.channel.veil_eq, alike.channel.serial_eq]

theorem alike_new {one two : C} {serial : Nat} (like : Like (shown serial) one two) (capacity : Nat) :
    Alike shown Like (new { channel := one, serial } capacity) (new { channel := two, serial } capacity) where
  phase_eq := rfl
  interest_eq := rfl
  ring_eq := rfl
  sound := Ring.sound_ofCapacity capacity
  channel := Recorded.alike_new like

theorem Alike.moved {next next' : Recorded C} (channel : Recorded.Alike shown Like next next')
    (serial : next.serial = one.channel.serial) {ring ring' : Ring}
    (ring_eq : ring.veil (shown one.channel.serial) = ring'.veil (shown one.channel.serial))
    (sound : ring.Sound) {phase phase' : Phase} (phase_eq : phase = phase') {interest interest' : Readiness}
    (interest_eq : interest = interest') :
    Alike shown Like ⟨phase, ring, interest, next⟩ ⟨phase', ring', interest', next'⟩ where
  phase_eq := phase_eq
  interest_eq := interest_eq
  ring_eq := by
    rw [serial]
    exact ring_eq
  sound := sound
  channel := channel

variable [Channel C]

structure AlikeTurn (shown : Nat → Bool) (Like : Bool → C → C → Prop) (one two : Turn (Recorded C)) :
    Prop where
  verdict_eq : one.verdict = two.verdict
  ready_eq : one.ready = two.ready
  scratch_eq : one.scratch.length = two.scratch.length
  events_eq : one.events = two.events
  connection : Alike shown Like one.connection two.connection

theorem Alike.turned (lookalike : Channel.Lookalike Like) (alike : Alike shown Like one two)
    {ready : Readiness} {scratch other : Bytes} (lengths : scratch.length = other.length)
    {turn : Turn (Recorded C)} (turned : Turned one ready scratch turn) :
    ∃ turn', Turned two ready other turn' ∧ AlikeTurn shown Like turn turn' := by
  have phase_eq := alike.phase_eq
  have ring_eq := alike.ring_eq
  have empty_eq := Ring.isEmpty_of_veil ring_eq
  have sound := alike.sound
  have rouse : one.Roused ready → two.Roused ready :=
    fun roused => ⟨roused.alive, alike.interest_eq ▸ roused.met⟩
  cases turned with
  | hungUp hangup =>
    refine ⟨_, .hungUp hangup, rfl, rfl, lengths, ?_, alike⟩
    unfold buffered
    rw [Ring.length_of_veil ring_eq]
  | idle alive unmet =>
    exact ⟨_, .idle alive (alike.interest_eq ▸ unmet), rfl, rfl, lengths, rfl, alike⟩
  | readBlocked roused reading answer =>
    obtain ⟨filled, channel, answer', same, -, next, serial⟩ := alike.channel.read lookalike lengths answer
    exact ⟨_, .readBlocked (rouse roused) (phase_eq ▸ reading) answer', rfl, rfl, same, rfl,
      .moved next serial ring_eq sound phase_eq rfl⟩
  | readFailed roused reading answer =>
    obtain ⟨filled, channel, answer', same, -, next, serial⟩ := alike.channel.read lookalike lengths answer
    exact ⟨_, .readFailed (rouse roused) (phase_eq ▸ reading) answer', rfl, rfl, same, rfl,
      .moved next serial ring_eq sound phase_eq alike.interest_eq⟩
  | readEnded roused reading answer =>
    obtain ⟨filled, channel, answer', same, -, next, serial⟩ := alike.channel.read lookalike lengths answer
    exact ⟨_, .readEnded (rouse roused) (phase_eq ▸ reading) answer', rfl, rfl, same, rfl,
      .moved next serial ring_eq sound phase_eq alike.interest_eq⟩
  | stored roused reading answer some put =>
    obtain ⟨filled, channel, answer', same, brought, next, serial⟩ :=
      alike.channel.read lookalike lengths answer
    obtain ⟨ring, put', rings, kept⟩ := sound.put_of_veil ring_eq brought put
    exact ⟨_, .stored (rouse roused) (phase_eq ▸ reading) answer' some put', rfl, rfl, same, rfl,
      .moved next serial rings kept rfl rfl⟩
  | overrun roused reading answer some put short =>
    obtain ⟨filled, channel, answer', same, brought, next, serial⟩ :=
      alike.channel.read lookalike lengths answer
    obtain ⟨ring, put', rings, kept⟩ := sound.put_of_veil ring_eq brought put
    exact ⟨_, .overrun (rouse roused) (phase_eq ▸ reading) answer' some put' short, rfl, rfl, same, rfl,
      .moved next serial rings kept phase_eq alike.interest_eq⟩
  | drained roused writing empty =>
    exact ⟨_, .drained (rouse roused) (phase_eq ▸ writing) (empty_eq ▸ empty), rfl, rfl, lengths, rfl,
      alike⟩
  | writeBlocked roused writing held peek answer =>
    obtain ⟨staged, ring, peek', same, offers, rings, kept⟩ := sound.peek_of_veil ring_eq lengths peek
    obtain ⟨channel, answer', next, serial⟩ := alike.channel.write lookalike offers answer
    exact ⟨_, .writeBlocked (rouse roused) (phase_eq ▸ writing) (empty_eq ▸ held) peek' answer', rfl, rfl,
      same, rfl, .moved next serial rings kept phase_eq rfl⟩
  | writeFailed roused writing held peek answer =>
    obtain ⟨staged, ring, peek', same, offers, rings, kept⟩ := sound.peek_of_veil ring_eq lengths peek
    obtain ⟨channel, answer', next, serial⟩ := alike.channel.write lookalike offers answer
    exact ⟨_, .writeFailed (rouse roused) (phase_eq ▸ writing) (empty_eq ▸ held) peek' answer', rfl, rfl,
      same, rfl, .moved next serial rings kept phase_eq alike.interest_eq⟩
  | @sent count staged ring channel roused writing held peek answer =>
    obtain ⟨staged', ring', peek', same, offers, rings, kept⟩ := sound.peek_of_veil ring_eq lengths peek
    obtain ⟨channel', answer', next, serial⟩ := alike.channel.write lookalike offers answer
    obtain ⟨dropped, left⟩ := Ring.consume_of_veil rings count
    exact ⟨_, .sent (rouse roused) (phase_eq ▸ writing) (empty_eq ▸ held) peek' answer', rfl, rfl, same,
      by rw [dropped], .moved next serial left (kept.consume count) rfl rfl⟩
  | @sentPart count taken staged ring channel roused writing held peek answer part =>
    obtain ⟨staged', ring', peek', same, offers, rings, kept⟩ := sound.peek_of_veil ring_eq lengths peek
    obtain ⟨channel', answer', next, serial⟩ := alike.channel.write lookalike offers answer
    obtain ⟨dropped, left⟩ := Ring.consume_of_veil rings taken
    exact ⟨_, .sentPart (rouse roused) (phase_eq ▸ writing) (empty_eq ▸ held) peek' answer' part, rfl, rfl,
      same, by rw [dropped], .moved next serial left (kept.consume taken) phase_eq alike.interest_eq⟩

variable [Closable C]

-- How often a close is tried again is up to its answers, and not to how patient the channel is.
theorem alike_closeWithin (lookalike : Channel.Lookalike Like) {one two : Recorded C}
    (alike : Recorded.Alike shown Like one two) {left left' : Nat}
    (enough : Closable.patience one ≤ left) (enough' : Closable.patience two ≤ left') (attempts : Nat) :
    (closeWithin one left attempts).1 = (closeWithin two left' attempts).1 ∧
      Recorded.Alike shown Like (closeWithin one left attempts).2 (closeWithin two left' attempts).2 := by
  induction left using Nat.strongRecOn generalizing one two left' attempts with
  | ind left ih =>
    rcases answer : Channel.close one with ⟨outcome, next⟩
    obtain ⟨next', answer', same⟩ := alike.close lookalike answer
    cases outcome with
    | finished =>
      rw [closeWithin_of_finished answer, closeWithin_of_finished answer']
      exact ⟨rfl, same⟩
    | blocked want =>
      obtain ⟨less, rfl, enough, closing⟩ := closeWithin_of_blocked answer enough attempts
      obtain ⟨less', -, enough', closing'⟩ := closeWithin_of_blocked answer' enough' attempts
      obtain ⟨events, final⟩ := ih less (Nat.lt_succ_self less) same enough enough' (attempts + 1)
      rw [closing, closing', events]
      exact ⟨rfl, final⟩

theorem Alike.close (lookalike : Channel.Lookalike Like) {one two : Connection (Recorded C)}
    (alike : Alike shown Like one two) :
    one.close.1 = two.close.1 ∧ Recorded.Alike shown Like one.close.2 two.close.2 :=
  alike_closeWithin lookalike alike.channel (Nat.le_refl _) (Nat.le_refl _) 0

end Connection

end SecureEcho
