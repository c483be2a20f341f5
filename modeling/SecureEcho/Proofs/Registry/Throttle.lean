import SecureEcho.Proofs.Registry.Occupancy

namespace SecureEcho

namespace Registry

variable {C : Type}

structure Regulated (limit bufferSize : Nat) (registry : Registry C) : Prop where
  sound : registry.table.Sound
  limit_eq : registry.limit = limit
  bufferSize_eq : registry.bufferSize = bufferSize
  length_le : registry.table.cells.length ≤ limit
  throttled_eq : registry.throttled = !registry.hasFreeSlot

variable {limit bufferSize : Nat} {registry : Registry C}

theorem regulated_new : (new limit bufferSize : Registry C).Regulated limit bufferSize where
  sound := SlotTable.sound_empty
  limit_eq := rfl
  bufferSize_eq := rfl
  length_le := Nat.zero_le _
  throttled_eq := by cases limit <;> rfl

theorem Regulated.hasFreeSlot_iff (regulated : registry.Regulated limit bufferSize) :
    registry.hasFreeSlot = true ↔ registry.size < limit := by
  rw [Registry.hasFreeSlot_iff, regulated.limit_eq]

theorem Regulated.size_le (regulated : registry.Regulated limit bufferSize) : registry.size ≤ limit :=
  List.countP_le_length.trans regulated.length_le

theorem Regulated.lt_limit (regulated : registry.Regulated limit bufferSize) {key : Nat} {slot : Slot C}
    (found : registry.get? key = some slot) : key < limit :=
  Nat.lt_of_lt_of_le (SlotTable.lt_length_of_get? found) regulated.length_le

theorem Regulated.found_of_full (regulated : registry.Regulated limit bufferSize)
    (full : registry.size = limit) {key : Nat} (inside : key < limit) :
    ∃ slot, registry.get? key = some slot := by
  have counted : registry.size = _ := SlotTable.size_eq_countP_range regulated.length_le
  have all := List.countP_eq_length.mp (counted.symm.trans (full.trans List.length_range.symm))
  exact Option.isSome_iff_exists.mp (all key (List.mem_range.mpr inside))

theorem Regulated.update (regulated : registry.Regulated limit bufferSize) {key : Nat} {old : Slot C}
    (found : registry.get? key = some old) (slot : Slot C) :
    ({ registry with table := registry.table.update key slot } : Registry C).Regulated limit bufferSize where
  sound := regulated.sound.update found slot
  limit_eq := regulated.limit_eq
  bufferSize_eq := regulated.bufferSize_eq
  length_le := by
    rw [SlotTable.length_update]
    exact regulated.length_le
  throttled_eq := by
    have same : ({ registry with table := registry.table.update key slot } : Registry C).hasFreeSlot =
        registry.hasFreeSlot :=
      congrArg (fun size => decide (size < registry.limit)) (SlotTable.size_update found slot)
    rw [same]
    exact regulated.throttled_eq

theorem Regulated.report (regulated : registry.Regulated limit bufferSize) (key : Nat)
    (seen : Readiness) :
    (registry.report key seen).Regulated limit bufferSize ∧
      (registry.report key seen).size = registry.size := by
  unfold Registry.report
  cases found : registry.get? key with
  | none => exact ⟨regulated, rfl⟩
  | some slot => exact ⟨regulated.update found _, SlotTable.size_update found _⟩

theorem Regulated.enroll (regulated : registry.Regulated limit bufferSize)
    (room : registry.hasFreeSlot = true) (channel : C) :
    (registry.enroll channel).2.2.Regulated limit bufferSize ∧
      (registry.enroll channel).2.2.size = registry.size + 1 := by
  have free : registry.table.size < limit := regulated.hasFreeSlot_iff.mp room
  rw [enroll_of_room room, updateThrottle_eq]
  exact ⟨⟨regulated.sound.insert _, regulated.limit_eq, regulated.bufferSize_eq,
    regulated.sound.length_insert_le free regulated.length_le _, rfl⟩, regulated.sound.size_insert _⟩

theorem Regulated.vacate (regulated : registry.Regulated limit bufferSize) {key : Nat} {slot : Slot C}
    (found : registry.get? key = some slot) :
    (registry.vacate key).2.Regulated limit bufferSize ∧
      (registry.vacate key).2.size + 1 = registry.size := by
  rw [Registry.vacate, updateThrottle_eq]
  refine ⟨⟨regulated.sound.erase found, regulated.limit_eq, regulated.bufferSize_eq, ?_, rfl⟩,
    SlotTable.size_erase found⟩
  rw [SlotTable.length_erase]
  exact regulated.length_le

variable [Channel C] [Closable C]

theorem Regulated.serveSlot (regulated : registry.Regulated limit bufferSize) (scratch : Bytes)
    (key : Nat) :
    (registry.serveSlot scratch key).registry.Regulated limit bufferSize ∧
      (registry.serveSlot scratch key).registry.size + (registry.serveSlot scratch key).ended.length =
        registry.size := by
  cases found : registry.get? key with
  | none =>
    rw [serveSlot_of_free found]
    exact ⟨regulated, rfl⟩
  | some slot =>
    have turned := slot.connection.turned_notify slot.ready scratch
    cases verdict : (slot.connection.notify slot.ready scratch).verdict with
    | keep =>
      rw [serveSlot_of_keep found turned verdict]
      exact ⟨regulated.update found _, SlotTable.size_update found _⟩
    | close =>
      rw [serveSlot_of_close found turned verdict]
      exact regulated.vacate found

-- What is true of a registry at the start of a service, and stays so with each slot.
theorem serveBelow_invariant (Invariant : Registry C → Prop) (initially : Invariant registry)
    (step : ∀ registry scratch key, Invariant registry →
      Invariant (registry.serveSlot scratch key).registry)
    (scratch : Bytes) (farewell : Ended C → List Event) (bound : Nat) :
    Invariant (registry.serveBelow scratch farewell bound).registry := by
  induction bound with
  | zero => exact initially
  | succ bound ih =>
    rw [serveBelow_succ]
    exact step _ _ bound ih

theorem get?_serveBelow_of_unready {key : Nat} {slot : Slot C}
    (found : registry.get? key = some slot) (unready : slot.ready = .empty) (scratch : Bytes)
    (farewell : Ended C → List Event) (bound : Nat) :
    (registry.serveBelow scratch farewell bound).registry.get? key = some slot := by
  refine serveBelow_invariant (fun registry => registry.get? key = some slot) found ?_ _ _ _
  intro registry scratch other there
  by_cases same : key = other
  · subst same
    rw [serveSlot_of_unready there unready]
    exact there
  · rw [get?_serveSlot_of_ne registry scratch same]
    exact there

theorem Regulated.serveBelow (regulated : registry.Regulated limit bufferSize) (scratch : Bytes)
    (farewell : Ended C → List Event) (bound : Nat) :
    (registry.serveBelow scratch farewell bound).registry.Regulated limit bufferSize ∧
      (registry.serveBelow scratch farewell bound).registry.size +
        (registry.serveBelow scratch farewell bound).ended.length = registry.size := by
  induction bound with
  | zero => exact ⟨regulated, rfl⟩
  | succ bound ih =>
    obtain ⟨before, balance⟩ := ih
    obtain ⟨after, step⟩ :=
      before.serveSlot (registry.serveBelow scratch farewell bound).scratch bound
    rw [serveBelow_succ]
    refine ⟨after, ?_⟩
    unfold Service.andThen
    dsimp only
    rw [List.length_append]
    omega

end Registry

end SecureEcho
