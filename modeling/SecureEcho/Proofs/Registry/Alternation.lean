import SecureEcho.Channel
import SecureEcho.Proofs.Registry.Throttle

namespace SecureEcho

def Event.ofThrottle : Event → Bool
  | .tableFull _ | .slotFreed _ => true
  | _ => false

theorem Event.no_throttle_of_told {events : List Event}
    (told : ∀ event ∈ events, event.ofConnection = true) : events.filter Event.ofThrottle = [] := by
  refine Event.filter_eq_nil_of_told told fun event own => ?_
  cases event with
  | tableFull | slotFreed => cases own
  | _ => rfl

-- The farewells of a service tell nothing in the throttle's place.
def Operation.SparesThrottle {C : Type} : Operation C → Prop
  | .serve _ farewell => ∀ ended, (farewell ended).filter Event.ofThrottle = []
  | .enroll _ | .report .. | .release _ => True

namespace Throttle

variable {limit : Nat}

def change (limit : Nat) (before after : Bool) : List Event :=
  if before = after then [] else [if after then .tableFull limit else .slotFreed (limit - 1)]

def changes (limit : Nat) (before : Bool) : List Bool → List Event
  | [] => []
  | after :: later => change limit before after ++ changes limit after later

@[simp] theorem change_self (limit : Nat) (value : Bool) : change limit value value = [] := if_pos rfl

theorem changes_singleton (limit : Nat) (before after : Bool) :
    changes limit before [after] = change limit before after := List.append_nil _

theorem filter_change (limit : Nat) (before after : Bool) :
    (change limit before after).filter Event.ofThrottle = change limit before after := by
  cases before <;> cases after <;> rfl

theorem changes_append (limit : Nat) (before : Bool) (values more : List Bool) :
    changes limit before (values ++ more) =
      changes limit before values ++ changes limit (values.getLastD before) more := by
  induction values generalizing before with
  | nil => rfl
  | cons after later ih =>
    rw [List.cons_append, changes, changes, ih, List.getLastD_cons, List.append_assoc]

theorem changes_range_succ (limit : Nat) (before : Bool) (value : Nat → Bool) (bound : Nat) :
    changes limit before ((List.range (bound + 1 + 1)).map value) =
      changes limit before ((List.range (bound + 1)).map value) ++
        change limit (value bound) (value (bound + 1)) := by
  rw [@List.range_succ (bound + 1), List.map_append, List.map_singleton, changes_append,
    changes_singleton, @List.range_succ bound, List.map_append, List.map_singleton, List.getLastD_concat]

theorem changes_of_steady {value : Bool} {values : List Bool} (steady : ∀ other ∈ values, other = value) :
    changes limit value values = [] := by
  induction values with
  | nil => rfl
  | cons after later ih =>
    obtain rfl := steady after List.mem_cons_self
    rw [changes, change_self, List.nil_append]
    exact ih fun other member => steady other (List.mem_cons_of_mem _ member)

-- A flag can only go to the value that it does not have, so the two kinds of change take turns.
theorem getElem?_changes {before : Bool} {values : List Bool} {index : Nat} {event : Event}
    (there : (changes limit before values)[index]? = some event) :
    event = if (index + before.toNat) % 2 = 0 then .tableFull limit else .slotFreed (limit - 1) := by
  induction values generalizing before index with
  | nil => cases there
  | cons after later ih =>
    rw [changes] at there
    by_cases same : before = after
    · rw [same, change_self, List.nil_append] at there
      rw [same]
      exact ih there
    · have told : change limit before after = [if after then .tableFull limit else .slotFreed (limit - 1)] :=
        if_neg same
      obtain rfl : before = !after := Bool.eq_not.mpr same
      rw [told] at there
      cases index with
      | zero =>
        obtain rfl := Option.some.inj there
        cases after <;> rfl
      | succ index =>
        -- The change after this one is one further on, and sets out from the other value.
        have other : (!after).toNat + after.toNat = 1 := by cases after <;> rfl
        have parity : (index + after.toNat) % 2 = (index + 1 + (!after).toNat) % 2 := by omega
        rw [← parity]
        exact ih there

end Throttle

namespace Registry

variable {C : Type} {limit bufferSize : Nat} {registry : Registry C}

theorem told_updateThrottle (full : registry.hasFreeSlot = false → registry.size = limit)
    (freed : registry.hasFreeSlot = true → registry.throttled = true → registry.size = limit - 1) :
    registry.updateThrottle.1 =
      Throttle.change limit registry.throttled registry.updateThrottle.2.throttled := by
  rw [updateThrottle_eq]
  unfold updateThrottle Throttle.change
  cases room : registry.hasFreeSlot with
  | false =>
    cases registry.throttled with
    | false => simp [full room]
    | true => rfl
  | true =>
    cases before : registry.throttled with
    | false => rfl
    | true => simp [freed room before]

theorem Regulated.throttled_eq_full (regulated : registry.Regulated limit bufferSize) :
    registry.throttled = decide (registry.size = limit) := by
  have few := regulated.size_le
  rw [regulated.throttled_eq]
  cases room : registry.hasFreeSlot with
  | true =>
    have less := regulated.hasFreeSlot_iff.mp room
    exact (decide_eq_false (by omega)).symm
  | false =>
    have none : ¬ registry.size < limit := fun less =>
      Bool.false_ne_true (room.symm.trans (regulated.hasFreeSlot_iff.mpr less))
    exact (decide_eq_true (by omega)).symm

theorem Regulated.throttled_of_none (regulated : registry.Regulated 0 bufferSize) :
    registry.throttled = true := by
  rw [regulated.throttled_eq_full]
  exact decide_eq_true (Nat.le_zero.mp regulated.size_le)

theorem Regulated.size_eq_of_full (regulated : registry.Regulated limit bufferSize)
    (full : registry.hasFreeSlot = false) : registry.size = limit := by
  have throttled := regulated.throttled_eq
  rw [full, regulated.throttled_eq_full] at throttled
  exact of_decide_eq_true throttled

theorem Regulated.enroll_of_full (regulated : registry.Regulated limit bufferSize)
    (full : registry.hasFreeSlot = false) (channel : C) :
    registry.enroll channel = (.error channel, [], registry) := by
  have same : registry.updateThrottle = ([], registry) := by
    unfold updateThrottle
    exact if_pos regulated.throttled_eq.symm
  rw [Registry.enroll_of_full full, same]

theorem Regulated.told_enroll (regulated : registry.Regulated limit bufferSize) (channel : C) :
    (registry.enroll channel).2.2.Regulated limit bufferSize ∧
      (registry.enroll channel).2.1 =
        Throttle.change limit registry.throttled (registry.enroll channel).2.2.throttled := by
  cases room : registry.hasFreeSlot with
  | false =>
    rw [regulated.enroll_of_full room]
    exact ⟨regulated, (Throttle.change_self limit _).symm⟩
  | true =>
    have next := regulated.enroll room channel
    refine ⟨next.1, ?_⟩
    have unthrottled : registry.throttled = false := by rw [regulated.throttled_eq, room]; rfl
    rw [enroll_of_room room] at next ⊢
    refine told_updateThrottle ?_ ?_
    · intro full
      rw [updateThrottle_eq] at next
      exact next.1.size_eq_of_full full
    · intro _ throttled
      exact absurd (unthrottled.symm.trans throttled) Bool.false_ne_true

theorem Regulated.told_vacate (regulated : registry.Regulated limit bufferSize) {key : Nat} {slot : Slot C}
    (found : registry.get? key = some slot) :
    (registry.vacate key).1 =
      Throttle.change limit registry.throttled (registry.vacate key).2.throttled := by
  have size : (registry.table.erase key).size + 1 = registry.size := SlotTable.size_erase found
  have few := regulated.size_le
  refine told_updateThrottle ?_ ?_
  · intro full
    have room : (registry.table.erase key).size < registry.limit := by
      rw [regulated.limit_eq]
      omega
    exact absurd (full.symm.trans (decide_eq_true room)) Bool.false_ne_true
  · intro _ throttled
    rw [regulated.throttled_eq_full] at throttled
    have full := of_decide_eq_true throttled
    show (registry.table.erase key).size = limit - 1
    omega

variable [Channel C] [Closable C]

theorem Regulated.throttle_of_closing (regulated : registry.Regulated limit bufferSize) {key : Nat}
    {slot : Slot C} (found : registry.get? key = some slot) (connection : Connection C) :
    (connection.close.1 ++ (registry.vacate key).1 ++
        [Event.connectionClosed key connection.phase connection.buffered]).filter Event.ofThrottle =
      Throttle.change limit registry.throttled (registry.vacate key).2.throttled := by
  have retries : connection.close.1.filter Event.ofThrottle = [] :=
    Event.no_throttle_of_told (Connection.told_closeWithin connection.channel _ 0)
  rw [List.filter_append, List.filter_append, retries, regulated.told_vacate found,
    Throttle.filter_change]
  exact List.append_nil _

theorem Regulated.told_release (regulated : registry.Regulated limit bufferSize) (key : Nat) :
    (registry.release key).2.2.Regulated limit bufferSize ∧
      (registry.release key).2.1.filter Event.ofThrottle =
        Throttle.change limit registry.throttled (registry.release key).2.2.throttled := by
  cases found : registry.get? key with
  | none =>
    rw [release_of_free found]
    exact ⟨regulated, (Throttle.change_self limit _).symm⟩
  | some slot =>
    rw [release_of_found found]
    exact ⟨(regulated.vacate found).1, regulated.throttle_of_closing found slot.connection⟩

theorem Regulated.told_serveSlot (regulated : registry.Regulated limit bufferSize) (scratch : Bytes)
    (key : Nat) :
    (registry.serveSlot scratch key).events.filter Event.ofThrottle =
      Throttle.change limit registry.throttled (registry.serveSlot scratch key).registry.throttled := by
  cases found : registry.get? key with
  | none =>
    rw [serveSlot_of_free found]
    exact (Throttle.change_self limit _).symm
  | some slot =>
    have turned := slot.connection.turned_notify slot.ready scratch
    have quiet := Event.no_throttle_of_told turned.told
    cases verdict : (slot.connection.notify slot.ready scratch).verdict with
    | keep =>
      rw [serveSlot_of_keep found turned verdict]
      exact quiet.trans (Throttle.change_self limit _).symm
    | close =>
      rw [serveSlot_of_close found turned verdict, List.filter_append, quiet]
      exact regulated.throttle_of_closing found _

theorem Regulated.told_andThen {before : Service C} {farewell : Ended C → List Event}
    (regulated : before.registry.Regulated limit bufferSize)
    (spares : ∀ ended, (farewell ended).filter Event.ofThrottle = []) (key : Nat) :
    (before.andThen farewell key).events.filter Event.ofThrottle =
      before.events.filter Event.ofThrottle ++
        Throttle.change limit before.registry.throttled
          (before.andThen farewell key).registry.throttled := by
  have farewells : ∀ ended : List (Ended C), (ended.flatMap farewell).filter Event.ofThrottle = [] := by
    intro ended
    rw [List.filter_flatMap, List.flatMap_eq_nil_iff]
    exact fun one _ => spares one
  unfold Service.andThen
  dsimp only
  rw [List.filter_append, List.filter_append, farewells, List.append_nil,
    regulated.told_serveSlot before.scratch key]

theorem Regulated.told_serveBelow (regulated : registry.Regulated limit bufferSize) (scratch : Bytes)
    {farewell : Ended C → List Event}
    (spares : ∀ ended, (farewell ended).filter Event.ofThrottle = []) (bound : Nat) :
    (registry.serveBelow scratch farewell bound).events.filter Event.ofThrottle =
      Throttle.changes limit registry.throttled ((List.range (bound + 1)).map fun served =>
        (registry.serveBelow scratch farewell served).registry.throttled) := by
  induction bound with
  | zero =>
    refine (Throttle.changes_of_steady fun other member => ?_).symm
    exact List.mem_singleton.mp member
  | succ bound ih =>
    have before := (regulated.serveBelow scratch farewell bound).1
    rw [Throttle.changes_range_succ, serveBelow_succ, before.told_andThen spares bound, ih]

end Registry

namespace Ledger

variable {C : Type} [Channel C] [Closable C]

def throttled (ledger : Ledger C) : Bool := ledger.registry.throttled

def throttleLog (ledger : Ledger C) : List Event := ledger.events.filter Event.ofThrottle

-- The moments of an operation at which the throttle can be looked at: its end, and within a service its
-- beginning and the end of each slot's turn, at which a farewell is said.
def moments (ledger : Ledger C) : Operation C → List (Ledger C)
  | .serve scratch farewell =>
    (List.range (ledger.registry.limit + 1)).map (ledger.serving scratch farewell)
  | operation => [ledger.perform operation]

def passage (ledger : Ledger C) : List (Operation C) → List (Ledger C)
  | [] => []
  | operation :: later => ledger.moments operation ++ (ledger.perform operation).passage later

theorem moments_getLast (ledger : Ledger C) (operation : Operation C) :
    ∃ earlier, ledger.moments operation = earlier ++ [ledger.perform operation] := by
  cases operation with
  | serve scratch farewell =>
    refine ⟨(List.range ledger.registry.limit).map (ledger.serving scratch farewell), ?_⟩
    rw [moments, List.range_succ, List.map_append, List.map_singleton]
    rfl
  | _ => exact ⟨[], rfl⟩

omit [Channel C] [Closable C] in
theorem registry_enroll (ledger : Ledger C) (channel : C) :
    let enrolled := ledger.registry.enroll { channel, serial := ledger.offered }
    (ledger.enroll channel).registry = enrolled.2.2 ∧
      (ledger.enroll channel).events = ledger.events ++ enrolled.2.1 := by
  unfold enroll
  dsimp only
  split <;> exact ⟨rfl, rfl⟩

variable {limit bufferSize : Nat} {ledger : Ledger C}

theorem regulated_moments (regulated : ledger.registry.Regulated limit bufferSize)
    (operation : Operation C) :
    ∀ moment ∈ ledger.moments operation, moment.registry.Regulated limit bufferSize := by
  intro moment member
  cases operation with
  | enroll channel =>
    rw [List.mem_singleton.mp member, perform, (ledger.registry_enroll channel).1]
    exact (regulated.told_enroll _).1
  | report key seen =>
    rw [List.mem_singleton.mp member]
    exact (regulated.report key seen).1
  | release key =>
    rw [List.mem_singleton.mp member]
    exact (regulated.told_release key).1
  | serve scratch farewell =>
    obtain ⟨served, -, rfl⟩ := List.mem_map.mp member
    exact (regulated.serveBelow scratch farewell served).1

theorem regulated_perform (regulated : ledger.registry.Regulated limit bufferSize)
    (operation : Operation C) : (ledger.perform operation).registry.Regulated limit bufferSize := by
  obtain ⟨earlier, moments⟩ := ledger.moments_getLast operation
  refine regulated_moments regulated operation _ ?_
  rw [moments]
  exact List.mem_append_right _ (List.mem_singleton.mpr rfl)

theorem told_perform (regulated : ledger.registry.Regulated limit bufferSize) {operation : Operation C}
    (spares : operation.SparesThrottle) :
    (ledger.perform operation).throttleLog =
      ledger.throttleLog ++
        Throttle.changes limit ledger.throttled ((ledger.moments operation).map throttled) := by
  cases operation with
  | enroll channel =>
    obtain ⟨registry, events⟩ := ledger.registry_enroll channel
    have told := (regulated.told_enroll { channel, serial := ledger.offered }).2
    simp only [moments, perform, List.map_singleton, Throttle.changes_singleton, throttleLog, throttled,
      registry, events, List.filter_append, told, Throttle.filter_change]
  | report key seen =>
    have unchanged : (ledger.report key seen).throttled = ledger.throttled := by
      unfold throttled report Registry.report
      cases ledger.registry.get? key <;> rfl
    simp only [moments, perform, List.map_singleton, Throttle.changes_singleton, unchanged,
      Throttle.change_self, List.append_nil]
    rfl
  | release key =>
    have told := (regulated.told_release key).2
    simp only [moments, perform, List.map_singleton, Throttle.changes_singleton]
    exact (List.filter_append _ _).trans (congrArg _ told)
  | serve scratch farewell =>
    have told := regulated.told_serveBelow scratch spares ledger.registry.limit
    rw [moments, List.map_map]
    exact (List.filter_append _ _).trans (congrArg _ told)

theorem told_run (regulated : ledger.registry.Regulated limit bufferSize)
    {operations : List (Operation C)} (spare : ∀ operation ∈ operations, operation.SparesThrottle) :
    (∀ moment ∈ ledger.passage operations, moment.registry.Regulated limit bufferSize) ∧
      (operations.foldl perform ledger).throttleLog =
        ledger.throttleLog ++
          Throttle.changes limit ledger.throttled ((ledger.passage operations).map throttled) := by
  induction operations generalizing ledger with
  | nil => exact ⟨List.forall_mem_nil _, (List.append_nil _).symm⟩
  | cons operation later ih =>
    obtain ⟨spares, spare⟩ := List.forall_mem_cons.mp spare
    obtain ⟨earlier, moments⟩ := ledger.moments_getLast operation
    have last : ((ledger.moments operation).map throttled).getLastD ledger.throttled =
        (ledger.perform operation).throttled := by
      rw [moments, List.map_append, List.map_singleton, List.getLastD_concat]
    obtain ⟨regular, told⟩ := ih (regulated_perform regulated operation) spare
    refine ⟨List.forall_mem_append.mpr ⟨regulated_moments regulated operation, regular⟩, ?_⟩
    rw [List.foldl_cons, told, told_perform regulated spares, passage, List.map_append,
      Throttle.changes_append, last, List.append_assoc]

theorem throttled_iff_full_and_log_takes_turns (limit bufferSize : Nat)
    (operations : List (Operation C)) (spare : ∀ operation ∈ operations, operation.SparesThrottle) :
    let beginning : Ledger C := .start limit bufferSize
    let log := (after limit bufferSize operations).throttleLog
    (∀ moment ∈ beginning :: beginning.passage operations,
        moment.throttled = decide (moment.registry.size = limit)) ∧
      log = Throttle.changes limit beginning.throttled ((beginning.passage operations).map throttled) ∧
      (∀ index event, log[index]? = some event →
        event = if index % 2 = 0 then .tableFull limit else .slotFreed (limit - 1)) ∧
      (limit = 0 → log = []) := by
  intro beginning log
  have initially : beginning.registry.Regulated limit bufferSize := Registry.regulated_new
  obtain ⟨regular, told⟩ := told_run initially spare
  have always : ∀ moment ∈ beginning :: beginning.passage operations,
      moment.throttled = decide (moment.registry.size = limit) :=
    List.forall_mem_cons.mpr ⟨initially.throttled_eq_full,
      fun moment member => (regular moment member).throttled_eq_full⟩
  have silent : limit = 0 → log = [] := by
    rintro rfl
    refine told.trans (Throttle.changes_of_steady fun value member => ?_)
    obtain ⟨moment, passed, rfl⟩ := List.mem_map.mp member
    exact (regular moment passed).throttled_of_none
  refine ⟨always, told, ?_, silent⟩
  intro index event there
  cases limit with
  | zero =>
    rw [silent rfl] at there
    cases there
  | succ more =>
    rw [show log = _ from told] at there
    exact Throttle.getElem?_changes there

-- Two slots are taken, one is let go, taken again, and then both are freed by one service, of which the
-- log tells once.
theorem throttle_log_of_two_slots :
    let farewell (ended : Ended (Recorded Scripted)) : List Event := [.connectionReleased ended.key ""]
    let operations : List (Operation Scripted) :=
      [.enroll {}, .enroll {}, .enroll {}, .release 0, .enroll {}, .report 0 .onHangup, .report 1 .onHangup,
        .serve [0, 0, 0] farewell]
    let beginning : Ledger Scripted := .start 2 4
    (∀ operation ∈ operations, operation.SparesThrottle) ∧
      (∀ moment ∈ beginning.passage operations,
        moment.throttled = decide (moment.registry.size = 2)) ∧
      (beginning.passage operations).map throttled =
        [false, true, true, false, true, true, true, true, false, false] ∧
      (after 2 4 operations).throttleLog = [.tableFull 2, .slotFreed 1, .tableFull 2, .slotFreed 1] := by
  intro farewell operations beginning
  have spare : ∀ operation ∈ operations, operation.SparesThrottle := by
    simp [operations, Operation.SparesThrottle, farewell, Event.ofThrottle]
  obtain ⟨always, told, -, -⟩ := throttled_iff_full_and_log_takes_turns 2 4 operations spare
  have passed : (beginning.passage operations).map throttled =
      [false, true, true, false, true, true, true, true, false, false] := by decide +kernel
  refine ⟨spare, (List.forall_mem_cons.mp always).2, passed, ?_⟩
  rw [told, passed]
  rfl

end Ledger

end SecureEcho
