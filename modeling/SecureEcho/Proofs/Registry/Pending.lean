import SecureEcho.Proofs.Registry.Live
import SecureEcho.Proofs.Registry.Wakeup

namespace SecureEcho

namespace Registry

variable {C : Type}

-- What a service has done for the connection that was in this slot: it tried the channel once more, or
-- it handed the channel out and freed the slot.
inductive Worked (before : Registry (Recorded C)) (service : Service (Recorded C)) (key : Nat) : Prop where
  | tried {slot next : Slot (Recorded C)} {call : Call} (found : before.get? key = some slot)
      (there : service.registry.get? key = some next) (unclosing : call.isClose = false)
      (calls : next.connection.channel.calls = slot.connection.channel.calls ++ [call]) :
      Worked before service key
  | ended {slot : Slot (Recorded C)} {channel : Recorded C} (found : before.get? key = some slot)
      (handed : ⟨key, channel⟩ ∈ service.ended) (freed : service.registry.get? key = none) :
      Worked before service key

theorem not_worked_unchanged {before : Registry (Recorded C)} {scratch : Bytes} {key : Nat} :
    ¬ before.Worked ⟨before, scratch, [], []⟩ key := by
  intro worked
  cases worked with
  | tried found there unclosing calls =>
    cases found.symm.trans there
    simp at calls
  | ended found handed freed => cases handed

variable [Channel C] [Closable C]

theorem worked_serveSlot {registry : Registry (Recorded C)} {key : Nat} {slot : Slot (Recorded C)}
    (found : registry.get? key = some slot) (busy : slot.connection.isActionable slot.ready = true)
    (supplied : slot.connection.Supplied) (scratch : Bytes) :
    registry.Worked (registry.serveSlot scratch key) key := by
  have turned := slot.connection.turned_notify slot.ready scratch
  cases verdict : (slot.connection.notify slot.ready scratch).verdict with
  | close =>
    rw [serveSlot_of_close found turned verdict, vacate, updateThrottle_eq]
    exact .ended found (List.mem_singleton.mpr rfl)
      ((SlotTable.get?_erase found key).trans (if_pos rfl))
  | keep =>
    rcases Connection.hangup_or_roused busy with hangup | roused
    · -- A hangup is no reason to keep a connection.
      have ended : slot.connection.Turned slot.ready scratch _ := .hungUp hangup
      rw [Connection.notify_eq_of_turned ended] at verdict
      cases verdict
    · obtain ⟨call, unclosing, calls⟩ := turned.tries supplied.busy roused
      rw [serveSlot_of_keep found turned verdict]
      exact .tried found ((SlotTable.get?_update found _ key).trans (if_pos rfl)) unclosing calls

theorem worked_serveBelow {registry : Registry (Recorded C)} {key : Nat} {slot : Slot (Recorded C)}
    (found : registry.get? key = some slot) (busy : slot.connection.isActionable slot.ready = true)
    (supplied : slot.connection.Supplied) (scratch : Bytes)
    (farewell : Ended (Recorded C) → List Event) {bound : Nat} (inside : key < bound) :
    registry.Worked (registry.serveBelow scratch farewell bound) key := by
  let before := registry.serveBelow scratch farewell key
  have still : before.registry.get? key = some slot :=
    (registry.get?_serveBelow_of_le scratch farewell (Nat.le_refl key)).trans found
  have turn := serveBelow_succ registry scratch farewell key
  have stays := registry.get?_serveBelow_of_lt scratch farewell inside
  have handed := registry.ended_serveBelow_prefix scratch farewell (Nat.succ_le_of_lt inside)
  rw [turn] at stays handed
  cases worked_serveSlot still busy supplied before.scratch with
  | tried there kept unclosing calls =>
    cases still.symm.trans there
    exact .tried found (stays.trans kept) unclosing calls
  | ended there member freed =>
    exact .ended found (handed.subset (List.mem_append_right _ member)) (stays.trans freed)

end Registry

namespace Ledger

variable {C : Type} [Channel C] [Closable C]

-- On whatever a run has led to: if nothing is pending, a service changes nothing and tells nothing; and
-- something is pending exactly if a service works on some slot.
theorem service_works_iff_pending (limit bufferSize : Nat) (operations : List (Operation C))
    (within : ∀ key slot, (after limit bufferSize operations).registry.get? key = some slot →
      slot.connection.channel.WithinOffers)
    (scratch : Bytes) (farewell : Ended (Recorded C) → List Event) :
    let before := (after limit bufferSize operations).registry
    (before.hasPending = false → before.serveAll scratch farewell = ⟨before, scratch, [], []⟩) ∧
      (before.hasPending = true ↔ ∃ key, before.Worked (before.serveAll scratch farewell) key) := by
  intro before
  have calm : before.hasPending = false →
      before.serveAll scratch farewell = ⟨before, scratch, [], []⟩ :=
    fun calm => Registry.serveBelow_of_not_pending calm scratch farewell before.limit
  refine ⟨calm, ?_, ?_⟩
  · intro pending
    obtain ⟨key, slot, found, busy⟩ := Registry.hasPending_iff.mp pending
    have chronicled := chronicled_after limit bufferSize operations
    have limit_eq : before.limit = limit := chronicled.limit_eq
    have inside : key < before.limit := limit_eq ▸ chronicled.inOrder.occupied_lt key slot found
    have watchful := (reached_after limit bufferSize operations).watchful
    have supplied := (watchful.watched key slot found (within key slot found)).supplied
    exact ⟨key, Registry.worked_serveBelow found busy supplied scratch farewell inside⟩
  · rintro ⟨key, worked⟩
    cases pending : before.hasPending with
    | true => rfl
    | false =>
      rw [calm pending] at worked
      exact absurd worked Registry.not_worked_unchanged

-- A write that took a byte of two leaves the rest to be written; the next write is held up, and then
-- nothing is pending although the connection still holds a byte.
theorem service_works_until_write_held_up :
    let serve : Operation Scripted := .serve [0, 0, 0] fun _ => []
    let script : Scripted := { arrivals := [.data [1, 2]], uptakes := [.atMost 1, .blocked .read] }
    let operations : List (Operation Scripted) :=
      [.enroll script, .enroll {}, .report 0 ⟨true, true, false⟩, serve, serve]
    let busy := (after 2 4 operations).registry
    let calm := (after 2 4 (operations ++ [serve])).registry
    (∀ key slot, busy.get? key = some slot → slot.connection.channel.WithinOffers) ∧
      (∀ key slot, calm.get? key = some slot → slot.connection.channel.WithinOffers) ∧
      (∃ key, busy.Worked (busy.serveAll [0, 0, 0] fun _ => []) key) ∧
      (calm.get? 0).map (fun slot => slot.connection.ring.contents) = some [2] ∧
      calm.serveAll [0, 0, 0] (fun _ => []) = ⟨calm, [0, 0, 0], [], []⟩ := by
  intro serve script operations busy calm
  have plain : ∀ script, .enroll script ∈ operations → script.Plain := by
    simp [operations, serve, script, Scripted.Plain]
  have still : ∀ script, .enroll script ∈ operations ++ [serve] → script.Plain := by
    simp [operations, serve, script, Scripted.Plain]
  have busyWithin : ∀ key slot, busy.get? key = some slot → slot.connection.channel.WithinOffers :=
    fun key slot found => (playing_after plain key slot found).within
  have calmWithin : ∀ key slot, calm.get? key = some slot → slot.connection.channel.WithinOffers :=
    fun key slot found => (playing_after still key slot found).within
  have worked := service_works_iff_pending 2 4 operations busyWithin [0, 0, 0] fun _ => []
  have unchanged := service_works_iff_pending 2 4 (operations ++ [serve]) calmWithin [0, 0, 0] fun _ => []
  refine ⟨busyWithin, calmWithin, worked.2.mp (by decide +kernel), by decide +kernel,
    unchanged.1 (by decide +kernel)⟩

end Ledger

end SecureEcho
