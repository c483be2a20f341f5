import SecureEcho.Proofs.Channel.Filling
import SecureEcho.Proofs.Connection.Turn

namespace SecureEcho

namespace Ring

theorem Sound.of_put {ring next : Ring} (sound : ring.Sound) {source : Bytes} {count : Nat}
    (put : ring.put source = (count, next)) : next.Sound := by
  have after := sound.put source
  rwa [put] at after

theorem Sound.restaged {ring next : Ring} (sound : ring.Sound) {scratch staged other : Bytes}
    {count : Nat} (peek : ring.peek scratch = (count, staged, next))
    (sized : other.length = scratch.length) :
    ∃ restaged, ring.peek other = (count, restaged, next) ∧ restaged.length = other.length ∧
      restaged.take count = staged.take count := by
  have peeked := sound.of_peek peek
  have again : ring.peek other = (count, (ring.peek other).2.1, next) := by
    unfold Ring.peek at peek ⊢
    dsimp only at peek ⊢
    rw [sized]
    split at peek
    · rename_i nothing
      cases peek
      rw [if_pos nothing]
    · rename_i something
      cases peek
      rw [if_neg something]
  have repeeked := sound.of_peek again
  exact ⟨_, again, repeeked.length_staged, repeeked.take_staged.trans peeked.take_staged.symm⟩

end Ring

namespace Connection

variable {C : Type} [Channel C] {connection : Connection C} {ready : Readiness} {scratch : Bytes}
  {turn : Turn C}

theorem Turned.sound (sound : connection.ring.Sound) (turned : Turned connection ready scratch turn) :
    turn.connection.ring.Sound := by
  cases turned with
  | hungUp | idle | readBlocked | readFailed | readEnded | drained => exact sound
  | stored roused reading answer some put | overrun roused reading answer some put short =>
    exact sound.of_put put
  | writeBlocked roused writing held peek answer | writeFailed roused writing held peek answer =>
    exact (sound.of_peek peek).sound
  | sent roused writing held peek answer | sentPart roused writing held peek answer part =>
    exact (sound.of_peek peek).sound.consume _

theorem Turned.restaged (exactly : Channel.FillsExactly connection.channel)
    (sound : connection.ring.Sound) (turned : Turned connection ready scratch turn) {other : Bytes}
    (sized : other.length = scratch.length) :
    ∃ restaged, restaged.length = other.length ∧
      Turned connection ready other { turn with scratch := restaged } := by
  cases turned with
  | hungUp hangup => exact ⟨other, rfl, .hungUp hangup⟩
  | idle alive unmet => exact ⟨other, rfl, .idle alive unmet⟩
  | readBlocked roused reading answer =>
    obtain ⟨refilled, again, length, -⟩ := exactly.restaged answer sized
    exact ⟨refilled, length, .readBlocked roused reading again⟩
  | readFailed roused reading answer =>
    obtain ⟨refilled, again, length, -⟩ := exactly.restaged answer sized
    exact ⟨refilled, length, .readFailed roused reading again⟩
  | readEnded roused reading answer =>
    obtain ⟨refilled, again, length, -⟩ := exactly.restaged answer sized
    exact ⟨refilled, length, .readEnded roused reading again⟩
  | stored roused reading answer some put =>
    obtain ⟨refilled, again, length, same⟩ := exactly.restaged answer sized
    rw [Transfer.count] at same
    exact ⟨refilled, length, .stored roused reading again some (same ▸ put)⟩
  | overrun roused reading answer some put short =>
    obtain ⟨refilled, again, length, same⟩ := exactly.restaged answer sized
    rw [Transfer.count] at same
    exact ⟨refilled, length, .overrun roused reading again some (same ▸ put) short⟩
  | drained roused writing empty => exact ⟨other, rfl, .drained roused writing empty⟩
  | writeBlocked roused writing held peek answer =>
    obtain ⟨restaged, again, length, same⟩ := sound.restaged peek sized
    exact ⟨restaged, length, .writeBlocked roused writing held again (same ▸ answer)⟩
  | writeFailed roused writing held peek answer =>
    obtain ⟨restaged, again, length, same⟩ := sound.restaged peek sized
    exact ⟨restaged, length, .writeFailed roused writing held again (same ▸ answer)⟩
  | sent roused writing held peek answer =>
    obtain ⟨restaged, again, length, same⟩ := sound.restaged peek sized
    exact ⟨restaged, length, .sent roused writing held again (same ▸ answer)⟩
  | sentPart roused writing held peek answer part =>
    obtain ⟨restaged, again, length, same⟩ := sound.restaged peek sized
    exact ⟨restaged, length, .sentPart roused writing held again (same ▸ answer) part⟩

theorem notify_restaged (exactly : Channel.FillsExactly connection.channel)
    (sound : connection.ring.Sound) (ready : Readiness) {one two : Bytes}
    (sized : two.length = one.length) :
    ∃ staged, staged.length = two.length ∧
      connection.notify ready two = { connection.notify ready one with scratch := staged } := by
  have turned := connection.turned_notify ready one
  obtain ⟨staged, length, again⟩ := turned.restaged exactly sound sized
  exact ⟨staged, length, notify_eq_of_turned again⟩

end Connection

end SecureEcho
