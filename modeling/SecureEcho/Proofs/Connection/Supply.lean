import SecureEcho.Proofs.Connection.Turn
import SecureEcho.Proofs.Ring.Contents

namespace SecureEcho

namespace Connection

variable {C : Type}

def Busy (connection : Connection C) : Prop :=
  connection.phase = .writing → connection.ring.isEmpty = false

structure Supplied (connection : Connection C) : Prop where
  sound : connection.ring.Sound
  busy : connection.Busy

theorem supplied_new (channel : C) (capacity : Nat) : (new channel capacity).Supplied where
  sound := Ring.sound_ofCapacity capacity
  busy writing := by cases writing

variable [Channel C]

theorem Supplied.turned {connection : Connection (Recorded C)} (supplied : connection.Supplied)
    {ready : Readiness} {scratch : Bytes} {turn : Turn (Recorded C)}
    (turned : Turned connection ready scratch turn) (kept : turn.verdict = .keep)
    (within : turn.connection.channel.WithinOffers) : turn.connection.Supplied := by
  have sound := supplied.sound
  cases turned with
  | hungUp | readFailed | readEnded | overrun | writeFailed => cases kept
  | idle => exact supplied
  | readBlocked => exact ⟨sound, supplied.busy⟩
  | @stored count filled ring channel roused reading answer some put =>
    have next := sound.put (filled.take count)
    have length := sound.length_put (filled.take count)
    rw [put] at next length
    have length : ring.length = connection.ring.length + count := length
    have more : 0 < ring.length := by omega
    exact ⟨next, fun _ => next.isEmpty_eq_false more⟩
  | drained => exact supplied
  | @writeBlocked want count staged ring channel roused writing held peek answer =>
    have next := sound.peek scratch
    have length := Ring.length_peek connection.ring scratch
    rw [peek] at next length
    exact ⟨next, fun _ => next.isEmpty_eq_false (by rw [length]; exact sound.length_pos held)⟩
  | @sent count staged ring channel roused writing held peek answer =>
    have next := sound.peek scratch
    rw [peek] at next
    exact ⟨next.consume count, fun writing => by cases writing⟩
  | @sentPart count taken staged ring channel roused writing held peek answer part =>
    have next := sound.peek scratch
    have size := Ring.peek_count connection.ring scratch
    have length := Ring.length_peek connection.ring scratch
    rw [peek] at next size length
    obtain ⟨inner, -, rfl⟩ := Recorded.of_write answer
    have few : taken ≤ count :=
      (within _ _ (by simp)).trans (List.length_take_le count staged)
    have size : count = min scratch.length connection.ring.length := size
    have length : ring.length = connection.ring.length := length
    have left : (ring.consume taken).2.length = ring.length - min taken ring.peeked :=
      next.length_consume taken
    have more : 0 < (ring.consume taken).2.length := by omega
    exact ⟨next.consume taken, fun _ => (next.consume taken).isEmpty_eq_false more⟩

omit [Channel C] in
theorem hangup_or_roused {connection : Connection C} {ready : Readiness}
    (busy : connection.isActionable ready = true) : ready.hangup = true ∨ connection.Roused ready := by
  cases hangup : ready.hangup with
  | true => exact .inl rfl
  | false => exact .inr ⟨hangup, by simpa [isActionable, hangup] using busy⟩

theorem Turned.tries {connection : Connection (Recorded C)} (busy : connection.Busy) {ready : Readiness}
    (roused : connection.Roused ready) {scratch : Bytes} {turn : Turn (Recorded C)}
    (turned : Turned connection ready scratch turn) :
    ∃ call, call.isClose = false ∧
      turn.connection.channel.calls = connection.channel.calls ++ [call] := by
  cases turned with
  | hungUp hangup =>
    rw [roused.alive] at hangup
    cases hangup
  | idle alive unmet =>
    rw [roused.met] at unmet
    cases unmet
  | drained _ writing empty =>
    rw [busy writing] at empty
    cases empty
  | readBlocked _ reading answer | readFailed _ reading answer | readEnded _ reading answer
  | stored _ reading answer | overrun _ reading answer =>
    obtain ⟨inner, -, rfl⟩ := Recorded.of_read answer
    exact ⟨_, rfl, rfl⟩
  | writeBlocked _ writing held peek answer | writeFailed _ writing held peek answer
  | sent _ writing held peek answer | sentPart _ writing held peek answer =>
    obtain ⟨inner, -, rfl⟩ := Recorded.of_write answer
    exact ⟨_, rfl, rfl⟩

structure Spent (connection : Connection (Recorded C)) (ready : Readiness)
    (turn : Turn (Recorded C)) (made : List Call) : Prop where
  serial : turn.connection.channel.serial = connection.channel.serial
  calls : turn.connection.channel.calls = connection.channel.calls ++ made
  open_calls : ∀ call ∈ made, call.isClose = false
  hangup : turn.ready.hangup = ready.hangup
  allows : connection.Busy → ∀ direction, turn.ready.allows direction =
    (ready.allows direction && made.all fun call => !call.blockedOn direction)

omit [Channel C] in
theorem Spent.within_before {connection : Connection (Recorded C)} {ready : Readiness}
    {turn : Turn (Recorded C)} {made : List Call} (spent : connection.Spent ready turn made)
    (within : turn.connection.channel.WithinOffers) : connection.channel.WithinOffers := by
  intro offer count member
  refine within offer count ?_
  rw [spent.calls]
  exact List.mem_append_left _ member

theorem Turned.spent {connection : Connection (Recorded C)} {ready : Readiness} {scratch : Bytes}
    {turn : Turn (Recorded C)} (turned : Turned connection ready scratch turn) :
    ∃ made, connection.Spent ready turn made := by
  cases turned with
  | hungUp | idle => exact ⟨[], rfl, by simp, by simp, rfl, by simp⟩
  | readBlocked roused reading answer =>
    obtain ⟨inner, -, rfl⟩ := Recorded.of_read answer
    refine ⟨_, rfl, rfl, by simp [Call.isClose], ?_, fun _ direction => ?_⟩
    · simp [holdUp, Readiness.hangup_without]
    · simp [holdUp, Readiness.allows_without, Call.blockedOn]
  | readFailed roused reading answer | readEnded roused reading answer
  | stored roused reading answer | overrun roused reading answer =>
    obtain ⟨inner, -, rfl⟩ := Recorded.of_read answer
    exact ⟨_, rfl, rfl, by simp [Call.isClose], rfl, by simp [Call.blockedOn]⟩
  | drained roused writing empty =>
    refine ⟨[], rfl, by simp, by simp, by simp [Readiness.hangup_without], fun busy => ?_⟩
    rw [busy writing] at empty
    cases empty
  | writeBlocked roused writing held peek answer =>
    obtain ⟨inner, -, rfl⟩ := Recorded.of_write answer
    refine ⟨_, rfl, rfl, by simp [Call.isClose], ?_, fun _ direction => ?_⟩
    · simp [holdUp, Readiness.hangup_without]
    · simp [holdUp, Readiness.allows_without, Call.blockedOn]
  | writeFailed roused writing held peek answer | sent roused writing held peek answer
  | sentPart roused writing held peek answer =>
    obtain ⟨inner, -, rfl⟩ := Recorded.of_write answer
    exact ⟨_, rfl, rfl, by simp [Call.isClose], rfl, by simp [Call.blockedOn]⟩

-- A turn without a call leaves the connection as it is. A call is one read or write; after one that was
-- held up the connection waits in that direction, and the readiness for it is gone.
theorem Turned.quiet_or_called {connection : Connection (Recorded C)} {ready : Readiness}
    {scratch : Bytes} {turn : Turn (Recorded C)} (turned : Turned connection ready scratch turn) :
    turn.connection = connection ∨ ∃ call, connection.Roused ready ∧ call.isClose = false ∧
      turn.connection.channel.calls = connection.channel.calls ++ [call] ∧
      ∀ want, call.blockedOn want = true →
        turn.connection.interest = .waitingFor want ∧ turn.ready.allows want = false := by
  cases turned with
  | hungUp | idle | drained => exact .inl rfl
  | readBlocked roused reading answer =>
    obtain ⟨inner, -, rfl⟩ := Recorded.of_read answer
    refine .inr ⟨_, roused, rfl, rfl, fun want held => ?_⟩
    obtain rfl : _ = want := by simpa [Call.blockedOn] using held
    simp [holdUp, Readiness.allows_without]
  | readFailed roused reading answer | readEnded roused reading answer
  | stored roused reading answer | overrun roused reading answer =>
    obtain ⟨inner, -, rfl⟩ := Recorded.of_read answer
    exact .inr ⟨_, roused, rfl, rfl, by simp [Call.blockedOn]⟩
  | writeBlocked roused writing held peek answer =>
    obtain ⟨inner, -, rfl⟩ := Recorded.of_write answer
    refine .inr ⟨_, roused, rfl, rfl, fun want held => ?_⟩
    obtain rfl : _ = want := by simpa [Call.blockedOn] using held
    simp [holdUp, Readiness.allows_without]
  | writeFailed roused writing held peek answer | sent roused writing held peek answer
  | sentPart roused writing held peek answer =>
    obtain ⟨inner, -, rfl⟩ := Recorded.of_write answer
    exact .inr ⟨_, roused, rfl, rfl, by simp [Call.blockedOn]⟩

end Connection

end SecureEcho
