import SecureEcho.Proofs.Connection.Exhaustion
import SecureEcho.Proofs.Registry.Alternation

namespace SecureEcho

namespace Registry

variable {C : Type} {Fits : Slot C → Prop} {registry : Registry C}

def Every (Fits : Slot C → Prop) (registry : Registry C) : Prop :=
  ∀ key slot, registry.get? key = some slot → Fits slot

theorem Every.enroll (every : registry.Every Fits) (sound : registry.table.Sound) {channel : C}
    (fresh : Fits ⟨.new channel registry.bufferSize, .empty⟩) :
    (registry.enroll channel).2.2.Every Fits := by
  cases room : registry.hasFreeSlot with
  | false =>
    rw [enroll_of_full room, updateThrottle_eq]
    exact every
  | true =>
    rw [enroll_of_room room, updateThrottle_eq]
    intro key slot there
    rcases sound.of_get?_insert there with ⟨-, rfl⟩ | before
    · exact fresh
    · exact every key slot before

theorem Every.update (every : registry.Every Fits) {key : Nat} {old slot : Slot C}
    (found : registry.get? key = some old) (fits : Fits slot) :
    ({ registry with table := registry.table.update key slot } : Registry C).Every Fits := by
  intro other rival there
  rcases SlotTable.of_get?_update found there with ⟨-, rfl⟩ | ⟨-, before⟩
  · exact fits
  · exact every other rival before

theorem Every.vacate (every : registry.Every Fits) {key : Nat} {old : Slot C}
    (found : registry.get? key = some old) : (registry.vacate key).2.Every Fits := by
  rw [Registry.vacate, updateThrottle_eq]
  intro other rival there
  exact every other rival (SlotTable.of_get?_erase found there).2

theorem Every.report (every : registry.Every Fits)
    (noted : ∀ slot seen, Fits slot → Fits { slot with ready := slot.ready.union seen })
    (key : Nat) (seen : Readiness) : (registry.report key seen).Every Fits := by
  unfold Registry.report
  cases found : registry.get? key with
  | none => exact every
  | some slot => exact every.update found (noted slot seen (every key slot found))

variable [Channel C] [Closable C]

theorem Every.release (every : registry.Every Fits) (key : Nat) :
    (registry.release key).2.2.Every Fits := by
  cases found : registry.get? key with
  | none =>
    rw [release_of_free found]
    exact every
  | some slot =>
    rw [release_of_found found]
    exact every.vacate found

theorem Every.serveSlot (every : registry.Every Fits)
    (turned : ∀ slot scratch turn, Fits slot → slot.connection.Turned slot.ready scratch turn →
      turn.verdict = .keep → Fits turn.slot) (scratch : Bytes) (key : Nat) :
    (registry.serveSlot scratch key).registry.Every Fits := by
  cases found : registry.get? key with
  | none =>
    rw [serveSlot_of_free found]
    exact every
  | some slot =>
    have turn := slot.connection.turned_notify slot.ready scratch
    cases verdict : (slot.connection.notify slot.ready scratch).verdict with
    | keep =>
      rw [serveSlot_of_keep found turn verdict]
      exact every.update found (turned slot scratch _ (every key slot found) turn verdict)
    | close =>
      rw [serveSlot_of_close found turn verdict]
      exact every.vacate found

end Registry

namespace Ledger

variable {C : Type} [Channel C] [Closable C]

theorem regulated_after (limit bufferSize : Nat) (operations : List (Operation C)) :
    (after limit bufferSize operations).registry.Regulated limit bufferSize := by
  induction operations using List.reverseRecOn with
  | nil => exact Registry.regulated_new
  | append_singleton earlier operation ih =>
    rw [after_concat]
    exact regulated_perform ih operation

theorem every_after {Fits : Slot (Recorded C) → Prop} {limit bufferSize : Nat}
    {operations : List (Operation C)}
    (fresh : ∀ channel serial, .enroll channel ∈ operations →
      Fits ⟨.new { channel, serial } bufferSize, .empty⟩)
    (noted : ∀ slot seen, Fits slot → Fits { slot with ready := slot.ready.union seen })
    (turned : ∀ slot scratch turn, Fits slot → slot.connection.Turned slot.ready scratch turn →
      turn.verdict = .keep → Fits turn.slot) :
    (after limit bufferSize operations).registry.Every Fits := by
  induction operations using List.reverseRecOn with
  | nil =>
    intro key slot found
    cases found
  | append_singleton earlier operation ih =>
    have before := ih fun channel serial member => fresh channel serial (List.mem_append_left _ member)
    have regulated := regulated_after limit bufferSize earlier
    rw [after_concat]
    cases operation with
    | enroll channel =>
      rw [perform, (registry_enroll _ channel).1]
      refine before.enroll regulated.sound ?_
      rw [regulated.bufferSize_eq]
      exact fresh channel _ (List.mem_append_right _ (List.mem_singleton.mpr rfl))
    | report key seen => exact before.report noted key seen
    | release key => exact before.release key
    | serve scratch farewell =>
      exact Registry.serveBelow_invariant (Registry.Every Fits) before
        (fun _ scratch key every => every.serveSlot turned scratch key) scratch farewell _

theorem playing_after {limit bufferSize : Nat} {operations : List (Operation Scripted)}
    (plain : ∀ script, .enroll script ∈ operations → script.Plain) :
    (after limit bufferSize operations).registry.Every fun slot => slot.connection.Playing :=
  every_after (fun script serial member => Connection.playing_new (plain script member) serial bufferSize)
    (fun _ _ playing => playing) fun _ _ _ playing turned kept => playing.turned turned kept

end Ledger

end SecureEcho
