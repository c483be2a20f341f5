import SecureEcho.Proofs.Connection.Veil
import SecureEcho.Proofs.Registry.Ledger

namespace SecureEcho

namespace SlotTable

variable {α β : Type}

def image (view : α → β) (table : SlotTable α) : SlotTable β :=
  ⟨table.cells.map (Option.map view), table.vacant⟩

variable (view : α → β) (table : SlotTable α)

@[simp] theorem size_image : (table.image view).size = table.size := by
  simp [size, image, List.countP_map, Function.comp_def]

@[simp] theorem nextKey_image : (table.image view).nextKey = table.nextKey := by
  simp [nextKey, image]

@[simp] theorem get?_image (key : Nat) : (table.image view).get? key = (table.get? key).map view := by
  simp only [get?, image, List.getElem?_map]
  cases table.cells[key]? with
  | none => rfl
  | some cell => cases cell <;> rfl

theorem image_insert (value : α) :
    (table.insert value).image view = (table.image view).insert (view value) := by
  unfold insert
  cases vacant : table.vacant <;> simp [image, vacant]

theorem image_update (key : Nat) (value : α) :
    (table.update key value).image view = (table.image view).update key (view value) := by
  unfold update
  rw [get?_image]
  cases table.get? key <;> simp [image]

theorem image_erase (key : Nat) : (table.erase key).image view = (table.image view).erase key := by
  unfold erase
  rw [get?_image]
  cases table.get? key <;> simp [image]

theorem values_image : (table.image view).values = table.values.map view := by
  simp only [values, image, List.filterMap_map, List.map_filterMap]
  rfl

end SlotTable

variable {C : Type}

def Slot.veil (shown : Nat → Bool) (slot : Slot (Recorded C)) : Slot (Recorded Unit) :=
  ⟨slot.connection.veil shown, slot.ready⟩

def Ended.veil (shown : Nat → Bool) (ended : Ended (Recorded C)) : Ended (Recorded Unit) :=
  ⟨ended.key, ended.channel.veil shown⟩

def Declined.veil (shown : Nat → Bool) (declined : Declined C) : Declined Unit :=
  ⟨declined.offer, declined.channel.veil shown⟩

namespace Registry

def veil (shown : Nat → Bool) (registry : Registry (Recorded C)) : Registry (Recorded Unit) :=
  { table := registry.table.image (Slot.veil shown), limit := registry.limit,
    bufferSize := registry.bufferSize, throttled := registry.throttled }

variable (shown : Nat → Bool) (registry : Registry (Recorded C))

@[simp] theorem size_veil : (registry.veil shown).size = registry.size :=
  SlotTable.size_image (Slot.veil shown) registry.table

@[simp] theorem hasFreeSlot_veil : (registry.veil shown).hasFreeSlot = registry.hasFreeSlot := by
  simp only [hasFreeSlot, size_veil]
  rfl

@[simp] theorem get?_veil (key : Nat) :
    (registry.veil shown).get? key = (registry.get? key).map (Slot.veil shown) :=
  SlotTable.get?_image (Slot.veil shown) registry.table key

theorem vacantKey_veil : (registry.veil shown).vacantKey = registry.vacantKey := by
  simp only [vacantKey, hasFreeSlot_veil]
  simp [veil]

theorem hasPending_veil : (registry.veil shown).hasPending = registry.hasPending := by
  have values := SlotTable.values_image (Slot.veil shown) registry.table
  simp only [hasPending, veil, values, List.any_map]
  rfl

theorem updateThrottle_veil :
    (registry.veil shown).updateThrottle =
      (registry.updateThrottle.1, registry.updateThrottle.2.veil shown) := by
  have throttled : (registry.veil shown).throttled = registry.throttled := rfl
  simp only [updateThrottle, hasFreeSlot_veil, size_veil, throttled]
  split <;> rfl

theorem veil_insert_new (record : Recorded C) :
    { registry.veil shown with
      table := (registry.veil shown).table.insert
        ⟨.new (record.veil shown) (registry.veil shown).bufferSize, .empty⟩ } =
      ({ registry with
        table := registry.table.insert ⟨.new record registry.bufferSize, .empty⟩ } : Registry _).veil
          shown := by
  have fresh : (Connection.new record registry.bufferSize).veil shown =
      .new (record.veil shown) registry.bufferSize := by
    simp [Connection.veil, Connection.new, Ring.veil_ofCapacity]
  simp [veil, SlotTable.image_insert, Slot.veil, fresh]

theorem enroll_veil (record : Recorded C) :
    (registry.veil shown).enroll (record.veil shown) =
      ((registry.enroll record).1.mapError (Recorded.veil shown), (registry.enroll record).2.1,
        (registry.enroll record).2.2.veil shown) := by
  have same := hasFreeSlot_veil shown registry
  cases room : registry.hasFreeSlot with
  | true =>
    have next := SlotTable.nextKey_image (Slot.veil shown) registry.table
    rw [room] at same
    rw [enroll_of_room room, enroll_of_room same, veil_insert_new, updateThrottle_veil]
    simp only [veil, next]
    rfl
  | false =>
    rw [room] at same
    rw [enroll_of_full room, enroll_of_full same, updateThrottle_veil]
    rfl

theorem vacate_veil (key : Nat) :
    (registry.veil shown).vacate key =
      ((registry.vacate key).1, (registry.vacate key).2.veil shown) := by
  unfold vacate
  rw [← updateThrottle_veil]
  simp [veil, SlotTable.image_erase]

theorem veil_update (key : Nat) (slot : Slot (Recorded C)) :
    ({ registry with table := registry.table.update key slot } : Registry _).veil shown =
      { registry.veil shown with table := (registry.veil shown).table.update key (slot.veil shown) } := by
  simp [veil, SlotTable.image_update]

end Registry

namespace Ledger

def veil (shown : Nat → Bool) (ledger : Ledger C) : Ledger Unit :=
  { ledger with
    registry := ledger.registry.veil shown
    declined := ledger.declined.map (Declined.veil shown)
    ended := ledger.ended.map (Ended.veil shown) }

variable (shown : Nat → Bool) (ledger : Ledger C)

theorem veil_enroll (channel : C) :
    (ledger.enroll channel).veil shown = (ledger.veil shown).enroll () := by
  have entered := Registry.enroll_veil shown ledger.registry { channel, serial := ledger.offered }
  have unseen : ({ channel, serial := ledger.offered } : Recorded C).veil shown =
      { channel := (), serial := (ledger.veil shown).offered } := rfl
  rw [unseen] at entered
  have registry : (ledger.veil shown).registry = ledger.registry.veil shown := rfl
  unfold enroll
  rw [registry, entered]
  rcases ledger.registry.enroll { channel, serial := ledger.offered } with ⟨place, events, next⟩
  cases place with
  | ok key => rfl
  | error back => simp [veil, Declined.veil, Except.mapError]

theorem veil_report (key : Nat) (seen : Readiness) :
    (ledger.report key seen).veil shown = (ledger.veil shown).report key seen := by
  have registry : (ledger.veil shown).registry = ledger.registry.veil shown := rfl
  unfold report Registry.report
  rw [registry, Registry.get?_veil]
  cases ledger.registry.get? key with
  | none => rfl
  | some slot =>
    have merged : Slot.veil shown { slot with ready := slot.ready.union seen } =
      { slot.veil shown with ready := (slot.veil shown).ready.union seen } := rfl
    simp only [Option.map_some]
    rw [← merged, ← Registry.veil_update]
    simp [veil, Slot.veil, Connection.veil, Recorded.veil]

theorem veil_vacate (key : Nat) (channel : Recorded C) (events : List Event) :
    Ledger.veil shown
        { ledger with
          registry := (ledger.registry.vacate key).2
          ended := ledger.ended ++ [⟨key, channel⟩]
          events := ledger.events ++ events } =
      { ledger.veil shown with
        registry := ((ledger.veil shown).registry.vacate key).2
        ended := (ledger.veil shown).ended ++ [⟨key, channel.veil shown⟩]
        events := (ledger.veil shown).events ++ events } := by
  simp [veil, Registry.vacate_veil, Ended.veil]

theorem veil_update (key : Nat) (slot : Slot (Recorded C)) (events : List Event) :
    Ledger.veil shown
        { ledger with
          registry := { ledger.registry with table := ledger.registry.table.update key slot }
          events := ledger.events ++ events } =
      { ledger.veil shown with
        registry :=
          { (ledger.veil shown).registry with
            table := (ledger.veil shown).registry.table.update key (slot.veil shown) }
        events := (ledger.veil shown).events ++ events } := by
  simp [veil, Registry.veil_update]

end Ledger

end SecureEcho
