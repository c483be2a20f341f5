import SecureEcho.Proofs.Connection.Turn
import SecureEcho.Proofs.Registry.Table

namespace SecureEcho

namespace Registry

variable {C : Type}

theorem updateThrottle_eq (registry : Registry C) :
    registry.updateThrottle.2 = { registry with throttled := !registry.hasFreeSlot } := by
  unfold updateThrottle
  dsimp only
  split
  · rename_i same
    rw [same]
  · rfl

def vacate (registry : Registry C) (key : Nat) : List Event × Registry C :=
  { registry with table := registry.table.erase key }.updateThrottle

theorem enroll_of_room {registry : Registry C} (room : registry.hasFreeSlot = true) (channel : C) :
    registry.enroll channel =
      (.ok registry.table.nextKey,
        { registry with
          table := registry.table.insert ⟨.new channel registry.bufferSize, .empty⟩ }.updateThrottle) := by
  simp [enroll, room]

theorem enroll_of_full {registry : Registry C} (full : registry.hasFreeSlot = false) (channel : C) :
    registry.enroll channel = (.error channel, registry.updateThrottle) := by
  simp [enroll, full]

theorem get?_report {registry : Registry C} {key : Nat} {slot : Slot C}
    (found : registry.get? key = some slot) (seen : Readiness) :
    (registry.report key seen).get? key = some { slot with ready := slot.ready.union seen } := by
  unfold report
  simp only [found]
  exact (SlotTable.get?_update found _ key).trans (if_pos rfl)

theorem hasPending_iff {registry : Registry C} :
    registry.hasPending = true ↔ ∃ key slot, registry.get? key = some slot ∧
      slot.connection.isActionable slot.ready = true := by
  rw [hasPending, List.any_eq_true]
  constructor
  · rintro ⟨slot, member, actionable⟩
    obtain ⟨key, found⟩ := SlotTable.mem_values.mp member
    exact ⟨key, slot, found, actionable⟩
  · rintro ⟨key, slot, found, actionable⟩
    exact ⟨slot, SlotTable.mem_values.mpr ⟨key, found⟩, actionable⟩

variable [Channel C] [Closable C]

theorem release_of_free {registry : Registry C} {key : Nat} (free : registry.get? key = none) :
    registry.release key = (none, [], registry) := by
  simp [release, free]

theorem release_of_found {registry : Registry C} {key : Nat} {slot : Slot C}
    (found : registry.get? key = some slot) :
    registry.release key =
      (some slot.connection.close.2,
        slot.connection.close.1 ++ (registry.vacate key).1 ++
          [.connectionClosed key slot.connection.phase slot.connection.buffered],
        (registry.vacate key).2) := by
  simp [release, found, vacate]

theorem serveSlot_of_free {registry : Registry C} {key : Nat} (free : registry.get? key = none)
    (scratch : Bytes) : registry.serveSlot scratch key = ⟨registry, scratch, [], []⟩ := by
  simp [serveSlot, free]

theorem serveSlot_of_keep {registry : Registry C} {key : Nat} {slot : Slot C} {scratch : Bytes}
    {turn : Turn C} (found : registry.get? key = some slot)
    (turned : slot.connection.Turned slot.ready scratch turn) (kept : turn.verdict = .keep) :
    registry.serveSlot scratch key =
      ⟨{ registry with table := registry.table.update key turn.slot }, turn.scratch, [], turn.events⟩ := by
  simp [serveSlot, found, Connection.notify_eq_of_turned turned, kept, Turn.slot]

theorem serveSlot_of_close {registry : Registry C} {key : Nat} {slot : Slot C} {scratch : Bytes}
    {turn : Turn C} (found : registry.get? key = some slot)
    (turned : slot.connection.Turned slot.ready scratch turn) (finished : turn.verdict = .close) :
    registry.serveSlot scratch key =
      ⟨(registry.vacate key).2, turn.scratch, [⟨key, turn.connection.close.2⟩],
        turn.events ++ (turn.connection.close.1 ++ (registry.vacate key).1 ++
          [.connectionClosed key turn.connection.phase turn.connection.buffered])⟩ := by
  have stored : ({ registry with table := registry.table.update key turn.slot } : Registry C).get? key =
      some turn.slot := by
    have stored := SlotTable.get?_update found turn.slot key
    rwa [if_pos rfl] at stored
  have erased := SlotTable.erase_update found turn.slot
  have released := release_of_found stored
  unfold vacate at released ⊢
  simp only [erased] at released
  unfold Turn.slot at released
  simp only [serveSlot, found, Connection.notify_eq_of_turned turned, finished, released]
  rfl

theorem serveSlot_of_idle {registry : Registry C} {key : Nat} {slot : Slot C}
    (found : registry.get? key = some slot) (idle : slot.connection.isActionable slot.ready = false)
    (scratch : Bytes) : registry.serveSlot scratch key = ⟨registry, scratch, [], []⟩ := by
  obtain ⟨alive, unmet⟩ := Bool.or_eq_false_iff.mp idle
  have same := SlotTable.update_self found
  rw [serveSlot_of_keep found (.idle alive unmet) rfl]
  unfold Turn.slot
  simp only [same]

theorem serveSlot_of_unready {registry : Registry C} {key : Nat} {slot : Slot C}
    (found : registry.get? key = some slot) (unready : slot.ready = .empty) (scratch : Bytes) :
    registry.serveSlot scratch key = ⟨registry, scratch, [], []⟩ := by
  refine serveSlot_of_idle found ?_ scratch
  rw [unready]
  rfl

theorem get?_serveSlot_of_ne (registry : Registry C) (scratch : Bytes) {key other : Nat}
    (apart : other ≠ key) : (registry.serveSlot scratch key).registry.get? other = registry.get? other := by
  cases found : registry.get? key with
  | none => rw [serveSlot_of_free found]
  | some slot =>
    have turned := slot.connection.turned_notify slot.ready scratch
    cases verdict : (slot.connection.notify slot.ready scratch).verdict with
    | keep =>
      rw [serveSlot_of_keep found turned verdict]
      exact (SlotTable.get?_update found _ other).trans (if_neg apart)
    | close =>
      rw [serveSlot_of_close found turned verdict, vacate, updateThrottle_eq]
      exact (SlotTable.get?_erase found other).trans (if_neg apart)

theorem serveBelow_succ (registry : Registry C) (scratch : Bytes) (farewell : Ended C → List Event)
    (bound : Nat) :
    registry.serveBelow scratch farewell (bound + 1) =
      (registry.serveBelow scratch farewell bound).andThen farewell bound := by
  simp [serveBelow, List.range_succ]

theorem serveBelow_of_not_pending {registry : Registry C} (calm : registry.hasPending = false)
    (scratch : Bytes) (farewell : Ended C → List Event) (bound : Nat) :
    registry.serveBelow scratch farewell bound = ⟨registry, scratch, [], []⟩ := by
  induction bound with
  | zero => rfl
  | succ bound ih =>
    have served : registry.serveSlot scratch bound = ⟨registry, scratch, [], []⟩ := by
      cases found : registry.get? bound with
      | none => exact serveSlot_of_free found scratch
      | some slot =>
        refine serveSlot_of_idle found ?_ scratch
        cases busy : slot.connection.isActionable slot.ready with
        | false => rfl
        | true =>
          have pending := hasPending_iff.mpr ⟨bound, slot, found, busy⟩
          rw [calm] at pending
          cases pending
    rw [serveBelow_succ, ih]
    unfold Service.andThen
    dsimp only
    rw [served]
    rfl

-- A slot is as it was until its turn comes, and stays as its turn has left it.

theorem get?_serveBelow_of_le (registry : Registry C) (scratch : Bytes)
    (farewell : Ended C → List Event) {bound key : Nat} (ahead : bound ≤ key) :
    (registry.serveBelow scratch farewell bound).registry.get? key = registry.get? key := by
  induction bound with
  | zero => rfl
  | succ bound ih =>
    rw [serveBelow_succ]
    exact (get?_serveSlot_of_ne _ _ (by omega)).trans (ih (by omega))

theorem get?_serveBelow_of_lt (registry : Registry C) (scratch : Bytes)
    (farewell : Ended C → List Event) {bound key : Nat} (behind : key < bound) :
    (registry.serveBelow scratch farewell bound).registry.get? key =
      (registry.serveBelow scratch farewell (key + 1)).registry.get? key := by
  induction bound with
  | zero => exact absurd behind (Nat.not_lt_zero key)
  | succ bound ih =>
    rcases Nat.lt_succ_iff_lt_or_eq.mp behind with before | rfl
    · rw [serveBelow_succ]
      exact (get?_serveSlot_of_ne _ _ (by omega)).trans (ih before)
    · rfl

theorem ended_serveBelow_prefix (registry : Registry C) (scratch : Bytes)
    (farewell : Ended C → List Event) {bound more : Nat} (further : bound ≤ more) :
    (registry.serveBelow scratch farewell bound).ended <+:
      (registry.serveBelow scratch farewell more).ended := by
  induction further with
  | refl => exact List.prefix_refl _
  | step further ih =>
    rw [serveBelow_succ]
    exact ih.trans (List.prefix_append _ _)

theorem ended_of_hangup {registry : Registry C} {key : Nat} {slot : Slot C}
    (found : registry.get? key = some slot) (hangup : slot.ready.hangup = true) (scratch : Bytes)
    (farewell : Ended C → List Event) {bound : Nat} (inside : key < bound) :
    ⟨key, slot.connection.close.2⟩ ∈ (registry.serveBelow scratch farewell bound).ended := by
  have still : (registry.serveBelow scratch farewell key).registry.get? key = some slot :=
    (registry.get?_serveBelow_of_le scratch farewell (Nat.le_refl key)).trans found
  have handed := registry.ended_serveBelow_prefix scratch farewell (Nat.succ_le_of_lt inside)
  refine handed.subset ?_
  rw [serveBelow_succ, Service.andThen, serveSlot_of_close still (.hungUp hangup) rfl]
  exact List.mem_append_right _ (List.mem_singleton.mpr rfl)

theorem andThen_of_free {before : Service C} {key : Nat} (free : before.registry.get? key = none)
    (farewell : Ended C → List Event) : before.andThen farewell key = before := by
  simp [Service.andThen, serveSlot_of_free free]

end Registry

end SecureEcho
