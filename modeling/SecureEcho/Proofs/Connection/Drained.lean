import SecureEcho.Channel
import SecureEcho.Proofs.Connection.Echo

namespace SecureEcho

-- Of the writes since the last read, the last one to be held up was held up in this direction.
def Recorded.writeHeldUp {C : Type} (record : Recorded C) : Option Direction :=
  record.calls.foldl (fun heldUp call =>
    match call with
    | .read .. => none
    | .write _ (.blocked want) => some want
    | .write .. | .close _ => heldUp) none

namespace Connection

variable {C : Type}

def WaitsToWrite (connection : Connection (Recorded C)) : Prop :=
  connection.phase = .writing →
    connection.interest = .waitingFor (connection.channel.writeHeldUp.getD .write)

theorem isActionable_of_waits {connection : Connection C} {direction : Direction}
    (waits : connection.interest = .waitingFor direction) {ready : Readiness}
    (alive : ready.hangup = false) : connection.isActionable ready = ready.allows direction := by
  simp [isActionable, waits, Readiness.meets_waitingFor, alive]

variable [Channel C] {connection : Connection (Recorded C)} {ready : Readiness} {scratch : Bytes}
  {turn : Turn (Recorded C)}

theorem Turned.waitsToWrite (waits : connection.WaitsToWrite)
    (turned : Turned connection ready scratch turn) : turn.connection.WaitsToWrite := by
  cases turned with
  | hungUp | idle | drained => exact waits
  | readBlocked roused reading | readFailed roused reading | readEnded roused reading
  | overrun roused reading =>
    intro writing
    cases reading.symm.trans writing
  | stored roused reading answer =>
    obtain ⟨channel, inner, rfl⟩ := Recorded.of_read answer
    intro writing
    simp [Recorded.writeHeldUp]
  | writeBlocked roused writing held peek answer =>
    obtain ⟨channel, inner, rfl⟩ := Recorded.of_write answer
    intro writing
    simp [Recorded.writeHeldUp, holdUp]
  | sent =>
    intro writing
    cases writing
  | writeFailed roused writing held peek answer | sentPart roused writing held peek answer =>
    obtain ⟨channel, inner, rfl⟩ := Recorded.of_write answer
    have before := waits writing
    intro writing
    simpa [Recorded.writeHeldUp] using before

theorem actionable_after_drained (waits : connection.WaitsToWrite)
    (writing : connection.phase = .writing) (empty : connection.ring.isEmpty = true)
    (alive : ready.hangup = false) (scratch : Bytes) :
    (connection.notify ready scratch).connection.isActionable (connection.notify ready scratch).ready =
        true ↔
      connection.channel.writeHeldUp = some .read ∧ ready.allows .read = true := by
  have waits := waits writing
  generalize connection.channel.writeHeldUp = heldUp at waits ⊢
  cases met : ready.meets connection.interest with
  | false =>
    rw [notify_eq_of_turned (.idle alive met), isActionable_of_waits waits alive]
    rw [waits, Readiness.meets_waitingFor, alive, Bool.or_false] at met
    rcases heldUp with _ | _ | _ <;> simp_all
  | true =>
    have alone : (ready.without (.ofDirection .write)).hangup = false := by
      rw [Readiness.hangup_without, alive]
      rfl
    rw [notify_eq_of_turned (.drained ⟨alive, met⟩ writing empty), isActionable_of_waits waits alone,
      Readiness.allows_without]
    rcases heldUp with _ | _ | _ <;> simp

end Connection

namespace Slot

variable {C : Type} [Channel C]

theorem drained_is_actionable_iff {channel : C} {capacity : Nat} {prompts : List Prompt}
    {connection : Connection (Recorded C)}
    (reached : ((fresh channel capacity).notified prompts).connection = connection)
    (writing : connection.phase = .writing) (empty : connection.ring.isEmpty = true) {ready : Readiness}
    (alive : ready.hangup = false) (scratch : Bytes) :
    let turn := connection.notify ready scratch
    turn.connection.isActionable turn.ready = true ↔
      connection.channel.writeHeldUp = some .read ∧ ready.allows .read = true := by
  have step : ∀ (slot : Slot (Recorded C)) (prompt : Prompt), True →
      slot.connection.WaitsToWrite → (slot.turn prompt).slot.connection.WaitsToWrite :=
    fun slot prompt _ waits => (Connection.turned_notify _ _ _).waitsToWrite waits
  have waits : ((fresh channel capacity).notified prompts).connection.WaitsToWrite :=
    notified_invariant (fun slot => slot.connection.WaitsToWrite) (fun writing => by cases writing) step
      fun _ _ => trivial
  rw [reached] at waits
  exact Connection.actionable_after_drained waits writing empty alive scratch

-- The write was held up by the socket being full, and then more was reported than was offered.
theorem drained_is_not_actionable_after_blocked_write :
    let channel : Scripted := { arrivals := [.data [1]], uptakes := [.blocked .write, .reports 2] }
    let both : Readiness := ⟨true, true, false⟩
    let prompts : List Prompt := List.replicate 3 ⟨both, [0, 0]⟩
    let connection := ((fresh channel 2).notified prompts).connection
    let turn := connection.notify both [0, 0]
    connection.phase = .writing ∧ connection.ring.isEmpty = true ∧ both.hangup = false ∧
      connection.channel.writeHeldUp = some .write ∧ turn.connection.isActionable turn.ready ≠ true := by
  intro channel both prompts connection turn
  have writing : connection.phase = .writing := by decide +kernel
  have empty : connection.ring.isEmpty = true := by decide +kernel
  have heldUp : connection.channel.writeHeldUp = some .write := by decide +kernel
  refine ⟨writing, empty, rfl, heldUp, ?_⟩
  intro busy
  obtain ⟨read, -⟩ := (drained_is_actionable_iff rfl writing empty rfl [0, 0]).mp busy
  cases heldUp.symm.trans read

-- The write waited for the socket to be read. Nothing is left to send, no call is made any more, and
-- every notification leaves the connection with something to do.
theorem drained_stays_actionable_after_blocked_read :
    let channel : Scripted := { arrivals := [.data [1]], uptakes := [.blocked .read, .reports 2] }
    let both : Readiness := ⟨true, true, false⟩
    let prompts : List Prompt := List.replicate 3 ⟨both, [0, 0]⟩
    let connection := ((fresh channel 2).notified prompts).connection
    let turn := connection.notify both [0, 0]
    connection.phase = .writing ∧ connection.ring.isEmpty = true ∧ both.hangup = false ∧
      turn.connection.isActionable turn.ready = true ∧
      turn.connection.notify turn.ready turn.scratch = turn := by
  decide +kernel

end Slot

end SecureEcho
