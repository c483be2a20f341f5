import Mathlib.Data.List.Basic
import Mathlib.Data.List.Perm.Basic
import SecureEcho.Registry

namespace SecureEcho

namespace SlotTable

variable {α : Type}

structure Sound (table : SlotTable α) : Prop where
  distinct : table.vacant.Nodup
  vacant_iff : ∀ key, key ∈ table.vacant ↔ table.cells[key]? = some none

theorem sound_empty : (empty : SlotTable α).Sound where
  distinct := List.nodup_nil
  vacant_iff := by simp [empty]

theorem get?_eq_some {table : SlotTable α} {key : Nat} {value : α} :
    table.get? key = some value ↔ table.cells[key]? = some (some value) := by
  unfold get?
  exact Option.join_eq_some_iff

theorem get?_eq_none {table : SlotTable α} {key : Nat} (free : table.cells[key]? = some none) :
    table.get? key = none := by
  simp [get?, free]

theorem get?_of_length_le {table : SlotTable α} {key : Nat} (past : table.cells.length ≤ key) :
    table.get? key = none := by
  simp [get?, past]

theorem lt_length_of_get? {table : SlotTable α} {key : Nat} {value : α}
    (found : table.get? key = some value) : key < table.cells.length := by
  rcases Nat.lt_or_ge key table.cells.length with inside | past
  · exact inside
  · rw [get?_of_length_le past] at found
    cases found

theorem get?_set {cells : List (Option α)} {vacant : List Nat} {key : Nat}
    (inside : key < cells.length) (cell : Option α) (other : Nat) :
    (⟨cells.set key cell, vacant⟩ : SlotTable α).get? other =
      if other = key then cell else (⟨cells, vacant⟩ : SlotTable α).get? other := by
  unfold get?
  split
  · rename_i same
    subst same
    simp [inside]
  · rename_i apart
    rw [List.getElem?_set_ne (Ne.symm apart)]

-- An insertion goes to the end of the table, or to the first of the vacant keys.

theorem nextKey_of_full {table : SlotTable α} (full : table.vacant = []) :
    table.nextKey = table.cells.length := by
  simp [nextKey, full]

theorem nextKey_of_vacant {table : SlotTable α} {key : Nat} {later : List Nat}
    (vacant : table.vacant = key :: later) : table.nextKey = key := by
  simp [nextKey, vacant]

theorem insert_of_full {table : SlotTable α} (full : table.vacant = []) (value : α) :
    table.insert value = ⟨table.cells ++ [some value], []⟩ := by
  simp [insert, full]

theorem insert_of_vacant {table : SlotTable α} {key : Nat} {later : List Nat}
    (vacant : table.vacant = key :: later) (value : α) :
    table.insert value = ⟨table.cells.set key (some value), later⟩ := by
  simp [insert, vacant]

theorem Sound.free_of_vacant {table : SlotTable α} (sound : table.Sound) {key : Nat} {later : List Nat}
    (vacant : table.vacant = key :: later) : table.cells[key]? = some none :=
  (sound.vacant_iff key).mp (by simp [vacant])

theorem Sound.get?_nextKey {table : SlotTable α} (sound : table.Sound) :
    table.get? table.nextKey = none := by
  cases vacant : table.vacant with
  | nil =>
    rw [nextKey_of_full vacant]
    exact get?_of_length_le (Nat.le_refl _)
  | cons key later =>
    rw [nextKey_of_vacant vacant]
    exact get?_eq_none (sound.free_of_vacant vacant)

theorem Sound.get?_insert {table : SlotTable α} (sound : table.Sound) (value : α) (other : Nat) :
    (table.insert value).get? other =
      if other = table.nextKey then some value else table.get? other := by
  cases vacant : table.vacant with
  | nil =>
    rw [insert_of_full vacant, nextKey_of_full vacant]
    unfold get?
    rcases Nat.lt_trichotomy other table.cells.length with inside | same | past
    · rw [if_neg (by omega), List.getElem?_append_left inside]
    · subst same
      simp
    · rw [if_neg (by omega), List.getElem?_eq_none (by simp; omega),
        List.getElem?_eq_none (by omega)]
  | cons key later =>
    have free := sound.free_of_vacant vacant
    rw [insert_of_vacant vacant, nextKey_of_vacant vacant]
    exact get?_set (List.getElem?_eq_some_iff.mp free).1 _ _

theorem Sound.insert {table : SlotTable α} (sound : table.Sound) (value : α) :
    (table.insert value).Sound := by
  have distinct := sound.distinct
  cases vacant : table.vacant with
  | nil =>
    rw [insert_of_full vacant]
    refine ⟨List.nodup_nil, ?_⟩
    intro key
    have before := sound.vacant_iff key
    rw [vacant] at before
    rcases Nat.lt_trichotomy key table.cells.length with inside | same | past
    · rw [List.getElem?_append_left inside]
      exact before
    · subst same
      simp
    · rw [List.getElem?_eq_none (by simp; omega)]
      simp
  | cons first later =>
    rw [vacant] at distinct
    have apart := List.nodup_cons.mp distinct
    have inside := (List.getElem?_eq_some_iff.mp (sound.free_of_vacant vacant)).1
    rw [insert_of_vacant vacant]
    refine ⟨apart.2, ?_⟩
    intro key
    have before := sound.vacant_iff key
    rw [vacant, List.mem_cons] at before
    by_cases same : key = first
    · subst same
      simp [apart.1, inside]
    · rw [List.getElem?_set_ne (Ne.symm same), ← before]
      simp [same]

theorem get?_update {table : SlotTable α} {key : Nat} {old : α} (found : table.get? key = some old)
    (value : α) (other : Nat) :
    (table.update key value).get? other = if other = key then some value else table.get? other := by
  unfold update
  simp only [found]
  exact get?_set (lt_length_of_get? found) _ _

theorem update_self {table : SlotTable α} {key : Nat} {value : α} (found : table.get? key = some value) :
    table.update key value = table := by
  obtain ⟨inside, same⟩ := List.getElem?_eq_some_iff.mp (get?_eq_some.mp found)
  have kept : table.cells.set key (some value) = table.cells := by
    rw [← same]
    exact List.set_getElem_self inside
  unfold update
  simp only [found, kept]

theorem get?_erase {table : SlotTable α} {key : Nat} {old : α} (found : table.get? key = some old)
    (other : Nat) :
    (table.erase key).get? other = if other = key then none else table.get? other := by
  unfold erase
  simp only [found]
  exact get?_set (lt_length_of_get? found) _ _

theorem Sound.of_get?_insert {table : SlotTable α} (sound : table.Sound) {value other : α} {key : Nat}
    (there : (table.insert value).get? key = some other) :
    key = table.nextKey ∧ other = value ∨ table.get? key = some other := by
  rw [sound.get?_insert] at there
  split at there
  · cases there
    exact .inl ⟨‹_›, rfl⟩
  · exact .inr there

theorem of_get?_update {table : SlotTable α} {key : Nat} {old : α} (found : table.get? key = some old)
    {value other : α} {place : Nat} (there : (table.update key value).get? place = some other) :
    place = key ∧ other = value ∨ place ≠ key ∧ table.get? place = some other := by
  rw [get?_update found] at there
  split at there
  · cases there
    exact .inl ⟨‹_›, rfl⟩
  · exact .inr ⟨‹_›, there⟩

theorem of_get?_erase {table : SlotTable α} {key : Nat} {old : α} (found : table.get? key = some old)
    {other : α} {place : Nat} (there : (table.erase key).get? place = some other) :
    place ≠ key ∧ table.get? place = some other := by
  rw [get?_erase found] at there
  split at there
  · cases there
  · exact ⟨‹_›, there⟩

theorem Sound.update {table : SlotTable α} (sound : table.Sound) {key : Nat} {old : α}
    (found : table.get? key = some old) (value : α) : (table.update key value).Sound := by
  unfold SlotTable.update
  simp only [found]
  refine ⟨sound.distinct, ?_⟩
  intro other
  have before := sound.vacant_iff other
  by_cases same : other = key
  · subst same
    rw [before, get?_eq_some.mp found, List.getElem?_set_self (lt_length_of_get? found)]
    simp
  · rw [List.getElem?_set_ne (Ne.symm same)]
    exact before

theorem Sound.erase {table : SlotTable α} (sound : table.Sound) {key : Nat} {old : α}
    (found : table.get? key = some old) : (table.erase key).Sound := by
  have occupied := get?_eq_some.mp found
  have inside := lt_length_of_get? found
  unfold SlotTable.erase
  simp only [found]
  refine ⟨List.nodup_cons.mpr ⟨?_, sound.distinct⟩, ?_⟩
  · rw [sound.vacant_iff, occupied]
    simp
  · intro other
    have before := sound.vacant_iff other
    by_cases same : other = key
    · subst same
      simp [inside]
    · rw [List.getElem?_set_ne (Ne.symm same), ← before]
      simp [same]

theorem erase_update {table : SlotTable α} {key : Nat} {old : α} (found : table.get? key = some old)
    (value : α) : (table.update key value).erase key = table.erase key := by
  have stored := get?_update found value key
  rw [if_pos rfl] at stored
  unfold erase
  simp only [stored, found]
  simp [update, found]

theorem mem_values {table : SlotTable α} {value : α} :
    value ∈ table.values ↔ ∃ key, table.get? key = some value := by
  constructor
  · intro member
    obtain ⟨cell, member, same⟩ := List.mem_filterMap.mp member
    obtain ⟨key, found⟩ := List.mem_iff_getElem?.mp member
    exact ⟨key, get?_eq_some.mpr (found.trans (congrArg some same))⟩
  · rintro ⟨key, found⟩
    exact List.mem_filterMap.mpr ⟨_, List.mem_of_getElem? (get?_eq_some.mp found), rfl⟩

theorem values_set_perm {cells : List (Option α)} {vacant : List Nat} {key : Nat} {old : Option α}
    (found : cells[key]? = some old) (cell : Option α) (later : List Nat) :
    (old.toList ++ (⟨cells.set key cell, later⟩ : SlotTable α).values).Perm
      (cell.toList ++ (⟨cells, vacant⟩ : SlotTable α).values) := by
  obtain ⟨inside, same⟩ := List.getElem?_eq_some_iff.mp found
  obtain ⟨front, back, split, -, changed⟩ : ∃ front back, cells = front ++ cells[key] :: back ∧
      front.length = key ∧ cells.set key cell = front ++ cell :: back := List.exists_of_set inside
  rw [same] at split
  unfold values
  simp only [changed]
  rw [split]
  cases old with
  | none =>
    cases cell with
    | none => exact List.Perm.refl _
    | some value => simp
  | some before =>
    cases cell with
    | none => simpa using List.perm_middle.symm
    | some value =>
      have there : (before :: (front.filterMap id ++ value :: back.filterMap id)).Perm
          (before :: value :: (front.filterMap id ++ back.filterMap id)) := List.perm_middle.cons before
      have back : (value :: before :: (front.filterMap id ++ back.filterMap id)).Perm
          (value :: (front.filterMap id ++ before :: back.filterMap id)) := List.perm_middle.symm.cons value
      simpa using there.trans ((List.Perm.swap _ _ _).trans back)

theorem Sound.values_insert_perm {table : SlotTable α} (sound : table.Sound) (value : α) :
    (table.insert value).values.Perm (value :: table.values) := by
  cases vacant : table.vacant with
  | nil =>
    rw [insert_of_full vacant]
    simp [values]
  | cons key later =>
    rw [insert_of_vacant vacant]
    exact values_set_perm (sound.free_of_vacant vacant) (some value) later

theorem values_update_perm {table : SlotTable α} {key : Nat} {old : α}
    (found : table.get? key = some old) (value : α) :
    (old :: (table.update key value).values).Perm (value :: table.values) := by
  unfold update
  simp only [found]
  exact values_set_perm (get?_eq_some.mp found) (some value) table.vacant

theorem values_erase_perm {table : SlotTable α} {key : Nat} {old : α}
    (found : table.get? key = some old) : (old :: (table.erase key).values).Perm table.values := by
  unfold erase
  simp only [found]
  exact values_set_perm (get?_eq_some.mp found) none (key :: table.vacant)

theorem size_eq_length_values (table : SlotTable α) : table.size = table.values.length :=
  List.length_filterMap_eq_countP.symm

theorem Sound.size_insert {table : SlotTable α} (sound : table.Sound) (value : α) :
    (table.insert value).size = table.size + 1 := by
  rw [size_eq_length_values, size_eq_length_values, (sound.values_insert_perm value).length_eq,
    List.length_cons]

theorem size_update {table : SlotTable α} {key : Nat} {old : α} (found : table.get? key = some old)
    (value : α) : (table.update key value).size = table.size := by
  have moved := (values_update_perm found value).length_eq
  rw [List.length_cons, List.length_cons] at moved
  rw [size_eq_length_values, size_eq_length_values]
  omega

theorem size_erase {table : SlotTable α} {key : Nat} {old : α} (found : table.get? key = some old) :
    (table.erase key).size + 1 = table.size := by
  rw [size_eq_length_values, size_eq_length_values, ← (values_erase_perm found).length_eq,
    List.length_cons]

end SlotTable

end SecureEcho
