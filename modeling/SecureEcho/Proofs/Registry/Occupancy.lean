import SecureEcho.Channel
import SecureEcho.Proofs.Registry.Turnover
import SecureEcho.Proofs.Ring.Contents

namespace SecureEcho

namespace SlotTable

variable {α : Type} {table : SlotTable α}

theorem vacant_update (table : SlotTable α) (key : Nat) (value : α) :
    (table.update key value).vacant = table.vacant := by
  unfold update
  split <;> rfl

theorem length_update (table : SlotTable α) (key : Nat) (value : α) :
    (table.update key value).cells.length = table.cells.length := by
  unfold update
  split
  · rfl
  · exact List.length_set

theorem vacant_erase {key : Nat} {old : α} (found : table.get? key = some old) :
    (table.erase key).vacant = key :: table.vacant := by
  simp [erase, found]

theorem length_erase (table : SlotTable α) (key : Nat) :
    (table.erase key).cells.length = table.cells.length := by
  unfold erase
  split
  · rfl
  · exact List.length_set

theorem Sound.size_of_full (sound : table.Sound) (full : table.vacant = []) :
    table.size = table.cells.length := by
  refine List.countP_eq_length.mpr fun cell member => ?_
  obtain ⟨key, found⟩ := List.mem_iff_getElem?.mp member
  cases cell with
  | some value => rfl
  | none =>
    have vacant := (sound.vacant_iff key).mpr found
    rw [full] at vacant
    cases vacant

-- A table grows only when every cell it has is occupied.
theorem Sound.length_insert_le (sound : table.Sound) {limit : Nat} (room : table.size < limit)
    (inside : table.cells.length ≤ limit) (value : α) : (table.insert value).cells.length ≤ limit := by
  cases vacant : table.vacant with
  | nil =>
    rw [sound.size_of_full vacant] at room
    rw [insert_of_full vacant, List.length_append]
    exact room
  | cons key later => simpa [insert_of_vacant vacant] using inside

theorem Sound.nextKey_lt (sound : table.Sound) {limit : Nat} (room : table.size < limit)
    (inside : table.cells.length ≤ limit) : table.nextKey < limit := by
  cases vacant : table.vacant with
  | nil =>
    rw [nextKey_of_full vacant, ← sound.size_of_full vacant]
    exact room
  | cons key later =>
    rw [nextKey_of_vacant vacant]
    exact Nat.lt_of_lt_of_le (List.getElem?_eq_some_iff.mp (sound.free_of_vacant vacant)).1 inside

theorem size_eq_countP_range {bound : Nat} (inside : table.cells.length ≤ bound) :
    table.size = (List.range bound).countP fun key => (table.get? key).isSome := by
  obtain ⟨more, rfl⟩ := Nat.exists_eq_add_of_le inside
  have cells : table.cells = (List.range table.cells.length).map table.get? := by
    refine List.ext_getElem (by simp) fun key here _ => ?_
    simp [get?, here]
  have beyond : ((List.range more).map (table.cells.length + ·)).countP
      (fun key => (table.get? key).isSome) = 0 := by
    refine List.countP_eq_zero.mpr fun key member => ?_
    obtain ⟨offset, -, rfl⟩ := List.mem_map.mp member
    simp [get?_of_length_le (Nat.le_add_right table.cells.length offset)]
  rw [List.range_add, List.countP_append, beyond, Nat.add_zero]
  conv_lhs => rw [size, cells, List.countP_map]
  rfl

structure Follows (table : SlotTable α) (history : List Turnover) : Prop where
  sound : table.Sound
  vacant : table.vacant = Turnover.idle history
  taken_iff : ∀ key, .taken key ∈ history ↔ key < table.cells.length

variable {history : List Turnover}

theorem follows_empty : (empty : SlotTable α).Follows [] where
  sound := sound_empty
  vacant := rfl
  taken_iff := by simp [empty]

theorem Follows.insert (follows : table.Follows history) (value : α) :
    (table.insert value).Follows (history ++ [.taken table.nextKey]) := by
  have sound := follows.sound
  refine ⟨sound.insert value, ?_, ?_⟩
  · rw [Turnover.idle_taken, ← follows.vacant]
    cases vacant : table.vacant with
    | nil => simp [insert_of_full vacant]
    | cons first later =>
      have distinct := sound.distinct
      rw [vacant] at distinct
      have apart : ∀ key ∈ later, (key != first) = true := fun key member =>
        bne_iff_ne.mpr fun same => (List.nodup_cons.mp distinct).1 (same ▸ member)
      rw [insert_of_vacant vacant, nextKey_of_vacant vacant]
      simpa using (List.filter_eq_self.mpr apart).symm
  · intro key
    rw [List.mem_append, List.mem_singleton, follows.taken_iff, Turnover.taken.injEq]
    cases vacant : table.vacant with
    | nil =>
      rw [insert_of_full vacant, nextKey_of_full vacant, List.length_append, List.length_singleton]
      omega
    | cons first later =>
      have inside := (List.getElem?_eq_some_iff.mp (sound.free_of_vacant vacant)).1
      rw [insert_of_vacant vacant, nextKey_of_vacant vacant, List.length_set]
      omega

theorem Follows.update (follows : table.Follows history) {key : Nat} {old : α}
    (found : table.get? key = some old) (value : α) : (table.update key value).Follows history where
  sound := follows.sound.update found value
  vacant := by rw [vacant_update, follows.vacant]
  taken_iff := by
    rw [length_update]
    exact follows.taken_iff

theorem Follows.erase (follows : table.Follows history) {key : Nat} {old : α}
    (found : table.get? key = some old) : (table.erase key).Follows (history ++ [.freed key]) where
  sound := follows.sound.erase found
  vacant := by rw [vacant_erase found, Turnover.idle_freed, follows.vacant]
  taken_iff := by
    intro other
    rw [length_erase, ← follows.taken_iff]
    simp

theorem Follows.freedLast_or_firstUnused (follows : table.Follows history) :
    Turnover.FreedLast history table.nextKey ∨
      (∀ key, ¬ Turnover.Idle history key) ∧ Turnover.FirstUnused history table.nextKey := by
  have listed := follows.vacant
  cases vacant : table.vacant with
  | nil =>
    rw [vacant] at listed
    rw [nextKey_of_full vacant]
    refine .inr ⟨?_, ?_, ?_⟩
    · intro key still
      have member := Turnover.mem_idle still
      rw [← listed] at member
      cases member
    · rw [follows.taken_iff]
      exact Nat.lt_irrefl _
    · intro below less
      exact (follows.taken_iff below).mpr less
  | cons key later =>
    rw [vacant] at listed
    rw [nextKey_of_vacant vacant]
    exact .inl (Turnover.freedLast_of_idle listed.symm)

end SlotTable

namespace Registry

variable {C : Type}

structure Untried (channel : C) (bufferSize : Nat) (slot : Slot C) : Prop where
  channel_eq : slot.connection.channel = channel
  ready : slot.ready = .empty
  phase : slot.connection.phase = .reading
  empty : slot.connection.ring.contents = []
  capacity : slot.connection.ring.capacity = bufferSize

theorem untried_new (channel : C) (bufferSize : Nat) :
    Untried channel bufferSize ⟨.new channel bufferSize, .empty⟩ where
  channel_eq := rfl
  ready := rfl
  phase := rfl
  empty := Ring.contents_ofCapacity bufferSize
  capacity := by simp [Connection.new, Ring.ofCapacity, Ring.capacity, Ring.size]

theorem hasFreeSlot_iff {registry : Registry C} :
    registry.hasFreeSlot = true ↔ registry.size < registry.limit := decide_eq_true_iff

theorem vacantKey_eq_none {registry : Registry C} :
    registry.vacantKey = none ↔ registry.hasFreeSlot = false := by
  unfold vacantKey
  split <;> simp_all

theorem vacantKey_eq_some {registry : Registry C} {key : Nat} :
    registry.vacantKey = some key ↔ registry.hasFreeSlot = true ∧ registry.table.nextKey = key := by
  unfold vacantKey
  split <;> simp_all

structure Chronicled (limit bufferSize : Nat) (history : List Turnover) (registry : Registry C) :
    Prop where
  follows : registry.table.Follows history
  limit_eq : registry.limit = limit
  bufferSize_eq : registry.bufferSize = bufferSize
  length_le : registry.table.cells.length ≤ limit

variable {limit bufferSize : Nat} {history : List Turnover} {registry : Registry C}

theorem chronicled_new (limit bufferSize : Nat) :
    (Registry.new limit bufferSize : Registry C).Chronicled limit bufferSize [] where
  follows := SlotTable.follows_empty
  limit_eq := rfl
  bufferSize_eq := rfl
  length_le := Nat.zero_le _

theorem Chronicled.free_of_le (chronicled : registry.Chronicled limit bufferSize history) {key : Nat}
    (past : limit ≤ key) : registry.get? key = none :=
  SlotTable.get?_of_length_le (chronicled.length_le.trans past)

theorem Chronicled.size_le (chronicled : registry.Chronicled limit bufferSize history) :
    registry.size ≤ limit := List.countP_le_length.trans chronicled.length_le

theorem Chronicled.update (chronicled : registry.Chronicled limit bufferSize history) {key : Nat}
    {slot : Slot C} (found : registry.get? key = some slot) (value : Slot C) :
    ({ registry with table := registry.table.update key value } : Registry C).Chronicled
      limit bufferSize history where
  follows := chronicled.follows.update found value
  limit_eq := chronicled.limit_eq
  bufferSize_eq := chronicled.bufferSize_eq
  length_le := (SlotTable.length_update ..).le.trans chronicled.length_le

theorem Chronicled.vacate (chronicled : registry.Chronicled limit bufferSize history) {key : Nat}
    {slot : Slot C} (found : registry.get? key = some slot) :
    (registry.vacate key).2.Chronicled limit bufferSize (history ++ [.freed key]) := by
  rw [Registry.vacate, updateThrottle_eq]
  exact {
    follows := chronicled.follows.erase found
    limit_eq := chronicled.limit_eq
    bufferSize_eq := chronicled.bufferSize_eq
    length_le := (SlotTable.length_erase ..).le.trans chronicled.length_le }

theorem Chronicled.vacantKey_vacate (chronicled : registry.Chronicled limit bufferSize history)
    {key : Nat} {slot : Slot C} (found : registry.get? key = some slot) :
    (registry.vacate key).2.vacantKey = some key := by
  have fewer : (registry.table.erase key).size + 1 = registry.table.size := SlotTable.size_erase found
  have size_le : registry.table.size ≤ registry.limit := chronicled.limit_eq ▸ chronicled.size_le
  rw [Registry.vacate, updateThrottle_eq, vacantKey_eq_some, hasFreeSlot_iff]
  refine ⟨?_, SlotTable.nextKey_of_vacant (SlotTable.vacant_erase found)⟩
  change (registry.table.erase key).size < registry.limit
  omega

theorem Chronicled.enroll (chronicled : registry.Chronicled limit bufferSize history) (channel : C) :
    (registry.enroll channel).2.2.Chronicled limit bufferSize
      (history ++ (registry.enroll channel).1.toOption.toList.map .taken) := by
  obtain ⟨follows, limit_eq, bufferSize_eq, length_le⟩ := chronicled
  cases free : registry.hasFreeSlot with
  | true =>
    have room : registry.table.size < limit := limit_eq ▸ hasFreeSlot_iff.mp free
    rw [enroll_of_room free, updateThrottle_eq]
    exact ⟨follows.insert _, limit_eq, bufferSize_eq, follows.sound.length_insert_le room length_le _⟩
  | false =>
    rw [enroll_of_full free, updateThrottle_eq]
    exact ⟨by simpa [Except.toOption] using follows, limit_eq, bufferSize_eq, length_le⟩

theorem Chronicled.enroll_vacant (chronicled : registry.Chronicled limit bufferSize history)
    {key : Nat} (vacant : registry.vacantKey = some key) (channel : C) :
    (registry.enroll channel).1 = .ok key ∧
      (∃ slot, (registry.enroll channel).2.2.get? key = some slot ∧ Untried channel bufferSize slot) ∧
      ∀ other, other ≠ key → (registry.enroll channel).2.2.get? other = registry.get? other := by
  obtain ⟨room, rfl⟩ := vacantKey_eq_some.mp vacant
  have placed := chronicled.follows.sound.get?_insert ⟨.new channel registry.bufferSize, .empty⟩
  rw [enroll_of_room room, updateThrottle_eq]
  refine ⟨rfl, ⟨_, (placed _).trans (if_pos rfl), ?_⟩, fun other apart => ?_⟩
  · rw [chronicled.bufferSize_eq]
    exact untried_new channel bufferSize
  · exact (placed other).trans (if_neg apart)

theorem Chronicled.report (chronicled : registry.Chronicled limit bufferSize history) (key : Nat)
    (seen : Readiness) : (registry.report key seen).Chronicled limit bufferSize history := by
  unfold Registry.report
  cases found : registry.get? key with
  | none => exact chronicled
  | some slot => exact chronicled.update found _

variable [Channel C] [Closable C]

-- The keys that releasing a slot frees: its own, if there is a connection in it.
def freedByRelease (registry : Registry C) (key : Nat) : List Turnover :=
  if (registry.get? key).isSome then [.freed key] else []

-- The keys that serving a slot frees: its own, if the connection in it comes to its end.
def freedByTurn (registry : Registry C) (scratch : Bytes) (key : Nat) : List Turnover :=
  match registry.get? key with
  | none => []
  | some slot =>
    if (slot.connection.notify slot.ready scratch).verdict = .close then [.freed key] else []

def freedBelow (registry : Registry C) (scratch : Bytes) (farewell : Ended C → List Event) :
    Nat → List Turnover
  | 0 => []
  | key + 1 =>
    let before := registry.serveBelow scratch farewell key
    registry.freedBelow scratch farewell key ++ before.registry.freedByTurn before.scratch key

structure InOrder (limit bufferSize : Nat) (history : List Turnover) (registry : Registry C) : Prop where
  occupied_lt : ∀ key slot, registry.get? key = some slot → key < limit
  -- Looking at more keys than a service does would bring nothing.
  scan_complete : ∀ scratch farewell more,
    registry.serveBelow scratch farewell (limit + more) = registry.serveAll scratch farewell
  size_eq : registry.size = (List.range limit).countP fun key => (registry.get? key).isSome
  size_le : registry.size ≤ limit
  vacantKey_eq_none_iff : registry.vacantKey = none ↔ registry.size = limit
  vacantKey_free : ∀ key, registry.vacantKey = some key → registry.get? key = none ∧ key < limit
  vacantKey_next : ∀ key, registry.vacantKey = some key → Turnover.FreedLast history key ∨
    (∀ other, ¬ Turnover.Idle history other) ∧ Turnover.FirstUnused history key
  enroll_vacant : ∀ key channel, registry.vacantKey = some key →
    (registry.enroll channel).1 = .ok key ∧
      (∃ slot, (registry.enroll channel).2.2.get? key = some slot ∧ Untried channel bufferSize slot) ∧
      ∀ other, other ≠ key → (registry.enroll channel).2.2.get? other = registry.get? other
  enroll_declines_iff : ∀ channel,
    (∃ back, (registry.enroll channel).1 = .error back) ↔ registry.vacantKey = none
  enroll_declined : ∀ channel, registry.vacantKey = none →
    (registry.enroll channel).1 = .error channel ∧
      ∀ key, (registry.enroll channel).2.2.get? key = registry.get? key
  release_occupied : ∀ key slot, registry.get? key = some slot →
    (registry.release key).1 = some slot.connection.close.2 ∧
      (registry.release key).2.2.get? key = none ∧
      (registry.release key).2.2.vacantKey = some key ∧
      ∀ other, other ≠ key → (registry.release key).2.2.get? other = registry.get? other
  release_free : ∀ key, registry.get? key = none → registry.release key = (none, [], registry)

theorem Chronicled.release (chronicled : registry.Chronicled limit bufferSize history) (key : Nat) :
    (registry.release key).2.2.Chronicled limit bufferSize (history ++ registry.freedByRelease key) := by
  cases found : registry.get? key with
  | none => simpa [freedByRelease, found, release_of_free found] using chronicled
  | some slot =>
    have next := chronicled.vacate found
    simpa [freedByRelease, found, release_of_found found] using next

theorem Chronicled.release_occupied (chronicled : registry.Chronicled limit bufferSize history)
    {key : Nat} {slot : Slot C} (found : registry.get? key = some slot) :
    (registry.release key).1 = some slot.connection.close.2 ∧
      (registry.release key).2.2.get? key = none ∧
      (registry.release key).2.2.vacantKey = some key ∧
      ∀ other, other ≠ key → (registry.release key).2.2.get? other = registry.get? other := by
  have gone := SlotTable.get?_erase found
  rw [release_of_found found]
  refine ⟨rfl, ?_, chronicled.vacantKey_vacate found, fun other apart => ?_⟩
  · rw [Registry.vacate, updateThrottle_eq]
    exact (gone key).trans (if_pos rfl)
  · rw [Registry.vacate, updateThrottle_eq]
    exact (gone other).trans (if_neg apart)

theorem Chronicled.serveSlot (chronicled : registry.Chronicled limit bufferSize history)
    (scratch : Bytes) (key : Nat) :
    (registry.serveSlot scratch key).registry.Chronicled limit bufferSize
      (history ++ registry.freedByTurn scratch key) := by
  cases found : registry.get? key with
  | none => simpa [freedByTurn, found, serveSlot_of_free found] using chronicled
  | some slot =>
    have turned := slot.connection.turned_notify slot.ready scratch
    cases verdict : (slot.connection.notify slot.ready scratch).verdict with
    | keep =>
      have next := chronicled.update found (slot.connection.notify slot.ready scratch).slot
      simpa [freedByTurn, found, verdict, serveSlot_of_keep found turned verdict] using next
    | close =>
      have next := chronicled.vacate found
      simpa [freedByTurn, found, verdict, serveSlot_of_close found turned verdict] using next

theorem Chronicled.serveBelow (chronicled : registry.Chronicled limit bufferSize history)
    (scratch : Bytes) (farewell : Ended C → List Event) (bound : Nat) :
    (registry.serveBelow scratch farewell bound).registry.Chronicled limit bufferSize
      (history ++ registry.freedBelow scratch farewell bound) := by
  induction bound with
  | zero => simpa [Registry.serveBelow, freedBelow] using chronicled
  | succ bound ih =>
    rw [serveBelow_succ, freedBelow, ← List.append_assoc]
    exact ih.serveSlot _ bound

theorem Chronicled.scan_complete (chronicled : registry.Chronicled limit bufferSize history)
    (scratch : Bytes) (farewell : Ended C → List Event) (more : Nat) :
    registry.serveBelow scratch farewell (limit + more) = registry.serveBelow scratch farewell limit := by
  induction more with
  | zero => rfl
  | succ more ih =>
    have free := (chronicled.serveBelow scratch farewell (limit + more)).free_of_le
      (Nat.le_add_right limit more)
    rw [← Nat.add_assoc, serveBelow_succ, andThen_of_free free, ih]

theorem Chronicled.inOrder (chronicled : registry.Chronicled limit bufferSize history) :
    registry.InOrder limit bufferSize history := by
  have sound := chronicled.follows.sound
  have length_le := chronicled.length_le
  have size_le := chronicled.size_le
  have room_iff : registry.hasFreeSlot = true ↔ registry.size < limit := by
    rw [hasFreeSlot_iff, chronicled.limit_eq]
  constructor
  · intro key slot found
    exact Nat.lt_of_lt_of_le (SlotTable.lt_length_of_get? found) length_le
  · intro scratch farewell more
    rw [chronicled.scan_complete, serveAll, chronicled.limit_eq]
  · exact SlotTable.size_eq_countP_range length_le
  · exact size_le
  · rw [vacantKey_eq_none, ← Bool.not_eq_true, room_iff]
    omega
  · intro key vacant
    obtain ⟨room, rfl⟩ := vacantKey_eq_some.mp vacant
    exact ⟨sound.get?_nextKey, sound.nextKey_lt (room_iff.mp room) length_le⟩
  · intro key vacant
    obtain ⟨-, rfl⟩ := vacantKey_eq_some.mp vacant
    exact chronicled.follows.freedLast_or_firstUnused
  · intro key channel vacant
    exact chronicled.enroll_vacant vacant channel
  · intro channel
    rw [vacantKey_eq_none]
    cases room : registry.hasFreeSlot with
    | true => simp [enroll_of_room room]
    | false => simp [enroll_of_full room]
  · intro channel vacant
    rw [enroll_of_full (vacantKey_eq_none.mp vacant), updateThrottle_eq]
    exact ⟨rfl, fun key => rfl⟩
  · intro key slot found
    exact chronicled.release_occupied found
  · intro key free
    exact release_of_free free

end Registry

namespace Ledger

variable {C : Type} [Channel C] [Closable C]

-- What an operation does with the keys: a channel that is let in takes the key it is given, and what
-- ends frees the key that it had.
def turnover (ledger : Ledger C) : Operation C → List Turnover
  | .enroll channel =>
    (ledger.registry.enroll { channel, serial := ledger.offered }).1.toOption.toList.map .taken
  | .report _ _ => []
  | .release key => ledger.registry.freedByRelease key
  | .serve scratch farewell =>
    ledger.registry.freedBelow scratch farewell ledger.registry.limit

def turnovers (ledger : Ledger C) : List (Operation C) → List Turnover
  | [] => []
  | operation :: later =>
    ledger.turnover operation ++ (ledger.perform operation).turnovers later

variable {limit bufferSize : Nat} {history : List Turnover} {ledger : Ledger C}

theorem chronicled_perform (chronicled : ledger.registry.Chronicled limit bufferSize history)
    (operation : Operation C) :
    (ledger.perform operation).registry.Chronicled limit bufferSize
      (history ++ ledger.turnover operation) := by
  cases operation with
  | enroll channel =>
    have next := chronicled.enroll { channel, serial := ledger.offered }
    simp only [perform, Ledger.enroll]
    split <;> exact next
  | report key seen => simpa [turnover, perform, report] using chronicled.report key seen
  | release key => exact chronicled.release key
  | serve scratch farewell => exact chronicled.serveBelow scratch farewell _

theorem chronicled_foldl (chronicled : ledger.registry.Chronicled limit bufferSize history)
    (operations : List (Operation C)) :
    (operations.foldl Ledger.perform ledger).registry.Chronicled limit bufferSize
      (history ++ ledger.turnovers operations) := by
  induction operations generalizing ledger history with
  | nil => simpa [turnovers] using chronicled
  | cons operation later ih =>
    rw [turnovers, ← List.append_assoc]
    exact ih (chronicled_perform chronicled operation)

theorem chronicled_after (limit bufferSize : Nat) (operations : List (Operation C)) :
    (after limit bufferSize operations).registry.Chronicled limit bufferSize
      ((start limit bufferSize).turnovers operations) := by
  have initially : (start limit bufferSize : Ledger C).registry.Chronicled limit bufferSize [] :=
    Registry.chronicled_new limit bufferSize
  exact chronicled_foldl initially operations

theorem slots_in_order (limit bufferSize : Nat) (operations : List (Operation C)) (scratch : Bytes)
    (farewell : Ended (Recorded C) → List Event) (bound : Nat) :
    let before := after limit bufferSize operations
    (before.serving scratch farewell bound).registry.InOrder limit bufferSize
      ((start limit bufferSize).turnovers operations ++
        before.registry.freedBelow scratch farewell bound) := by
  intro before
  exact ((chronicled_after limit bufferSize operations).serveBelow scratch farewell bound).inOrder

-- Key 1 is freed last and taken first; then 0 is next, before the fresh key 2.
example :
    let operations : List (Operation Scripted) :=
      [.enroll {}, .enroll {}, .release 0, .release 1, .enroll {}]
    (start 3 4).turnovers operations = [.taken 0, .taken 1, .freed 0, .freed 1, .taken 1] ∧
      (after 3 4 operations).registry.vacantKey = some 0 := by
  decide +kernel

end Ledger

end SecureEcho
