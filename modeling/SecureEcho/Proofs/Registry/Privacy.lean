import SecureEcho.Proofs.Registry.Custody
import SecureEcho.Proofs.Registry.Veil

namespace SecureEcho

variable {C : Type}

-- What is done to the registry in both runs, when so many channels were offered before. The staging
-- area need not hold the same.
inductive Operation.Alike (shown : Nat → Bool) (Like : Bool → C → C → Prop) (offered : Nat) :
    Operation C → Operation C → Prop where
  | enroll {channel channel' : C} (like : Like (shown offered) channel channel') :
      Alike shown Like offered (.enroll channel) (.enroll channel')
  | report (key : Nat) (seen : Readiness) : Alike shown Like offered (.report key seen) (.report key seen)
  | release (key : Nat) : Alike shown Like offered (.release key) (.release key)
  | serve {scratch scratch' : Bytes} {farewell farewell' : Ended (Recorded C) → List Event}
      (lengths : scratch.length = scratch'.length)
      (farewells : ∀ key {one two : Recorded C}, Recorded.Alike shown Like one two →
        farewell ⟨key, one⟩ = farewell' ⟨key, two⟩) :
      Alike shown Like offered (.serve scratch farewell) (.serve scratch' farewell')

def Operation.offers : Operation C → Nat
  | .enroll _ => 1
  | .report .. | .release _ | .serve .. => 0

inductive Operation.AllAlike (shown : Nat → Bool) (Like : Bool → C → C → Prop) :
    Nat → List (Operation C) → List (Operation C) → Prop where
  | nil (offered : Nat) : AllAlike shown Like offered [] []
  | cons {offered : Nat} {operation operation' : Operation C} {later later' : List (Operation C)}
      (first : operation.Alike shown Like offered operation')
      (rest : AllAlike shown Like (offered + operation.offers) later later') :
      AllAlike shown Like offered (operation :: later) (operation' :: later')

variable {shown : Nat → Bool} {Like : Bool → C → C → Prop}

theorem Operation.AllAlike.take {offered : Nat} {operations operations' : List (Operation C)}
    (alike : AllAlike shown Like offered operations operations') (steps : Nat) :
    AllAlike shown Like offered (operations.take steps) (operations'.take steps) := by
  induction alike generalizing steps with
  | nil offered => simpa using AllAlike.nil offered
  | cons first rest ih =>
    cases steps with
    | zero => exact .nil _
    | succ steps => exact .cons first (ih steps)

structure Slot.Alike (shown : Nat → Bool) (Like : Bool → C → C → Prop) (one two : Slot (Recorded C)) :
    Prop where
  ready_eq : one.ready = two.ready
  connection : Connection.Alike shown Like one.connection two.connection

theorem Slot.Alike.veil_eq {one two : Slot (Recorded C)} (alike : Slot.Alike shown Like one two) :
    one.veil shown = two.veil shown := by
  unfold Slot.veil
  rw [alike.ready_eq, alike.connection.veil_eq]

namespace Ledger

structure Alike (shown : Nat → Bool) (Like : Bool → C → C → Prop) (one two : Ledger C) : Prop where
  sound : one.registry.table.Sound
  sound' : two.registry.table.Sound
  veil_eq : one.veil shown = two.veil shown
  live : ∀ key slot, one.registry.get? key = some slot →
    ∃ slot', two.registry.get? key = some slot' ∧ Slot.Alike shown Like slot slot'

variable {one two : Ledger C}

theorem alike_start (limit bufferSize : Nat) :
    Alike shown Like (start limit bufferSize) (start limit bufferSize) where
  sound := SlotTable.sound_empty
  sound' := SlotTable.sound_empty
  veil_eq := rfl
  live key slot found := by cases found

theorem Alike.registry_eq (alike : Alike shown Like one two) :
    one.registry.veil shown = two.registry.veil shown :=
  congrArg Ledger.registry alike.veil_eq

theorem Alike.offered_eq (alike : Alike shown Like one two) : one.offered = two.offered :=
  (Ledger.mk.inj alike.veil_eq).2.1

theorem Alike.nextKey_eq (alike : Alike shown Like one two) :
    one.registry.table.nextKey = two.registry.table.nextKey := by
  have same := congrArg (fun registry => registry.table.nextKey) alike.registry_eq
  simpa [Registry.veil] using same

theorem Alike.bufferSize_eq (alike : Alike shown Like one two) :
    one.registry.bufferSize = two.registry.bufferSize :=
  (Registry.mk.inj alike.registry_eq).2.2.1

theorem Alike.limit_eq (alike : Alike shown Like one two) :
    one.registry.limit = two.registry.limit :=
  (Registry.mk.inj alike.registry_eq).2.1

theorem Alike.free (alike : Alike shown Like one two) {key : Nat} (free : one.registry.get? key = none) :
    two.registry.get? key = none := by
  have same := congrArg (fun registry => registry.get? key) alike.registry_eq
  simpa [free] using same.symm

theorem Alike.live_insert (alike : Alike shown Like one two) {fresh fresh' : Slot (Recorded C)}
    (same : Slot.Alike shown Like fresh fresh') (key : Nat) (slot : Slot (Recorded C))
    (there : (one.registry.table.insert fresh).get? key = some slot) :
    ∃ slot', (two.registry.table.insert fresh').get? key = some slot' ∧ Slot.Alike shown Like slot slot' := by
  rw [alike.sound.get?_insert, alike.nextKey_eq] at there
  rw [alike.sound'.get?_insert]
  split at there
  · cases there
    exact ⟨fresh', if_pos ‹_›, same⟩
  · rw [if_neg ‹_›]
    exact alike.live key slot there

theorem Alike.live_update (alike : Alike shown Like one two) {key : Nat}
    {slot slot' next next' : Slot (Recorded C)} (found : one.registry.get? key = some slot)
    (found' : two.registry.get? key = some slot') (same : Slot.Alike shown Like next next') (place : Nat)
    (other : Slot (Recorded C)) (there : (one.registry.table.update key next).get? place = some other) :
    ∃ other', (two.registry.table.update key next').get? place = some other' ∧
      Slot.Alike shown Like other other' := by
  rw [SlotTable.get?_update found] at there
  rw [SlotTable.get?_update found']
  split at there
  · cases there
    exact ⟨next', if_pos ‹_›, same⟩
  · rw [if_neg ‹_›]
    exact alike.live place other there

theorem Alike.live_erase (alike : Alike shown Like one two) {key : Nat} {slot slot' : Slot (Recorded C)}
    (found : one.registry.get? key = some slot) (found' : two.registry.get? key = some slot') (place : Nat)
    (other : Slot (Recorded C)) (there : (one.registry.table.erase key).get? place = some other) :
    ∃ other', (two.registry.table.erase key).get? place = some other' ∧
      Slot.Alike shown Like other other' := by
  rw [SlotTable.get?_erase found] at there
  rw [SlotTable.get?_erase found']
  split at there
  · cases there
  · rw [if_neg ‹_›]
    exact alike.live place other there

theorem Alike.enroll (alike : Alike shown Like one two) {channel channel' : C}
    (like : Like (shown one.offered) channel channel') :
    Alike shown Like (one.enroll channel) (two.enroll channel') := by
  have veil_eq : (one.enroll channel).veil shown = (two.enroll channel').veil shown := by
    rw [veil_enroll, alike.veil_eq, veil_enroll]
  have rooms : one.registry.hasFreeSlot = two.registry.hasFreeSlot := by
    have same := congrArg Registry.hasFreeSlot alike.registry_eq
    simpa using same
  unfold Ledger.enroll at veil_eq ⊢
  cases room : one.registry.hasFreeSlot with
  | true =>
    rw [Registry.enroll_of_room room, Registry.enroll_of_room (rooms ▸ room)] at veil_eq ⊢
    simp only [Registry.updateThrottle_eq] at veil_eq ⊢
    refine ⟨alike.sound.insert _, alike.sound'.insert _, veil_eq, ?_⟩
    rw [← alike.bufferSize_eq, ← alike.offered_eq]
    exact alike.live_insert ⟨rfl, Connection.alike_new like _⟩
  | false =>
    rw [Registry.enroll_of_full room, Registry.enroll_of_full (rooms ▸ room)] at veil_eq ⊢
    simp only [Registry.updateThrottle_eq] at veil_eq ⊢
    exact ⟨alike.sound, alike.sound', veil_eq, alike.live⟩

theorem Alike.report (alike : Alike shown Like one two) (key : Nat) (seen : Readiness) :
    Alike shown Like (one.report key seen) (two.report key seen) := by
  have veil_eq : (one.report key seen).veil shown = (two.report key seen).veil shown := by
    rw [veil_report, alike.veil_eq, veil_report]
  unfold Ledger.report Registry.report at veil_eq ⊢
  cases found : one.registry.get? key with
  | none =>
    have found' := alike.free found
    simp only [found, found'] at veil_eq ⊢
    exact ⟨alike.sound, alike.sound', veil_eq, alike.live⟩
  | some slot =>
    obtain ⟨slot', found', same⟩ := alike.live key slot found
    simp only [found, found'] at veil_eq ⊢
    refine ⟨alike.sound.update found _, alike.sound'.update found' _, veil_eq, ?_⟩
    exact alike.live_update found found' ⟨by rw [same.ready_eq], same.connection⟩

theorem Alike.closed (alike : Alike shown Like one two) {key : Nat} {slot slot' : Slot (Recorded C)}
    (found : one.registry.get? key = some slot) (found' : two.registry.get? key = some slot')
    {channel channel' : Recorded C} (channels : Recorded.Alike shown Like channel channel')
    (events : List Event) :
    Alike shown Like
      { one with
        registry := (one.registry.vacate key).2
        ended := one.ended ++ [⟨key, channel⟩]
        events := one.events ++ events }
      { two with
        registry := (two.registry.vacate key).2
        ended := two.ended ++ [⟨key, channel'⟩]
        events := two.events ++ events } where
  sound := by
    rw [Registry.vacate, Registry.updateThrottle_eq]
    exact alike.sound.erase found
  sound' := by
    rw [Registry.vacate, Registry.updateThrottle_eq]
    exact alike.sound'.erase found'
  veil_eq := by rw [veil_vacate, veil_vacate, alike.veil_eq, channels.veil_eq]
  live := by
    rw [Registry.vacate, Registry.vacate, Registry.updateThrottle_eq, Registry.updateThrottle_eq]
    exact alike.live_erase found found'

theorem Alike.throttling_eq (alike : Alike shown Like one two) (key : Nat) :
    (one.registry.vacate key).1 = (two.registry.vacate key).1 := by
  have same := congrArg (fun registry => (registry.vacate key).1) alike.registry_eq
  simpa [Registry.vacate_veil] using same

variable [Channel C] [Closable C]

theorem Alike.release (lookalike : Channel.Lookalike Like) (alike : Alike shown Like one two) (key : Nat) :
    Alike shown Like (one.release key) (two.release key) := by
  cases found : one.registry.get? key with
  | none =>
    rw [release_of_free found, release_of_free (alike.free found)]
    exact alike
  | some slot =>
    obtain ⟨slot', found', -, same⟩ := alike.live key slot found
    obtain ⟨retries, channels⟩ := same.close lookalike
    have buffered := Ring.length_of_veil same.ring_eq
    rw [release_of_found found, release_of_found found', retries, alike.throttling_eq, same.phase_eq,
      Connection.buffered, buffered]
    exact alike.closed found found' channels _

theorem Alike.serveSlot (lookalike : Channel.Lookalike Like) (alike : Alike shown Like one two)
    {scratch scratch' : Bytes} (lengths : scratch.length = scratch'.length)
    {farewell farewell' : Ended (Recorded C) → List Event}
    (farewells : ∀ key {one two : Recorded C}, Recorded.Alike shown Like one two →
      farewell ⟨key, one⟩ = farewell' ⟨key, two⟩) (key : Nat) :
    Alike shown Like (one.serveSlot scratch farewell key) (two.serveSlot scratch' farewell' key) ∧
      (one.registry.serveSlot scratch key).scratch.length =
        (two.registry.serveSlot scratch' key).scratch.length := by
  cases found : one.registry.get? key with
  | none =>
    have found' := alike.free found
    rw [serveSlot_of_free found, serveSlot_of_free found', Registry.serveSlot_of_free found,
      Registry.serveSlot_of_free found']
    exact ⟨alike, lengths⟩
  | some slot =>
    obtain ⟨slot', found', ready_eq, same⟩ := alike.live key slot found
    obtain ⟨turn, turned⟩ : ∃ turn, slot.connection.Turned slot.ready scratch turn :=
      ⟨_, slot.connection.turned_notify slot.ready scratch⟩
    obtain ⟨turn', turned', both⟩ := same.turned lookalike lengths turned
    rw [ready_eq] at turned'
    have verdicts := both.verdict_eq
    cases verdict : turn.verdict with
    | keep =>
      rw [verdict] at verdicts
      have slots : Slot.Alike shown Like turn.slot turn'.slot := ⟨both.ready_eq, both.connection⟩
      rw [serveSlot_of_keep found turned verdict, serveSlot_of_keep found' turned' verdicts.symm,
        Registry.serveSlot_of_keep found turned verdict,
        Registry.serveSlot_of_keep found' turned' verdicts.symm]
      refine ⟨⟨alike.sound.update found _, alike.sound'.update found' _, ?_,
        alike.live_update found found' slots⟩, both.scratch_eq⟩
      rw [veil_update, veil_update, alike.veil_eq, slots.veil_eq, both.events_eq]
    | close =>
      rw [verdict] at verdicts
      obtain ⟨retries, channels⟩ := both.connection.close lookalike
      have buffered := Ring.length_of_veil both.connection.ring_eq
      rw [serveSlot_of_close found turned verdict, serveSlot_of_close found' turned' verdicts.symm,
        Registry.serveSlot_of_close found turned verdict,
        Registry.serveSlot_of_close found' turned' verdicts.symm]
      refine ⟨?_, both.scratch_eq⟩
      rw [both.events_eq, retries, alike.throttling_eq, both.connection.phase_eq, Connection.buffered,
        buffered, farewells key channels]
      exact alike.closed found found' channels _

theorem Alike.serving (lookalike : Channel.Lookalike Like) (alike : Alike shown Like one two)
    {scratch scratch' : Bytes} (lengths : scratch.length = scratch'.length)
    {farewell farewell' : Ended (Recorded C) → List Event}
    (farewells : ∀ key {one two : Recorded C}, Recorded.Alike shown Like one two →
      farewell ⟨key, one⟩ = farewell' ⟨key, two⟩) (bound : Nat) :
    Alike shown Like (one.serving scratch farewell bound) (two.serving scratch' farewell' bound) ∧
      (one.registry.serveBelow scratch farewell bound).scratch.length =
        (two.registry.serveBelow scratch' farewell' bound).scratch.length := by
  induction bound with
  | zero =>
    rw [serving_zero, serving_zero]
    exact ⟨alike, lengths⟩
  | succ bound ih =>
    rw [serving_succ, serving_succ, Registry.serveBelow_succ, Registry.serveBelow_succ]
    exact ih.1.serveSlot lookalike ih.2 farewells bound

theorem Alike.perform (lookalike : Channel.Lookalike Like) (alike : Alike shown Like one two)
    {operation operation' : Operation C} (same : operation.Alike shown Like one.offered operation') :
    Alike shown Like (one.perform operation) (two.perform operation') := by
  cases same with
  | enroll like => exact alike.enroll like
  | report key seen => exact alike.report key seen
  | release key => exact alike.release lookalike key
  | @serve scratch scratch' farewell farewell' lengths farewells =>
    change Alike shown Like (one.serving scratch farewell one.registry.limit)
      (two.serving scratch' farewell' two.registry.limit)
    rw [← alike.limit_eq]
    exact (alike.serving lookalike lengths farewells _).1

theorem offered_perform (ledger : Ledger C) (operation : Operation C) :
    (ledger.perform operation).offered = ledger.offered + operation.offers := by
  cases operation with
  | enroll channel =>
    unfold perform enroll
    dsimp only
    split <;> rfl
  | report key seen => rfl
  | release key => rfl
  | serve scratch farewell => rfl

theorem Alike.run (lookalike : Channel.Lookalike Like) (alike : Alike shown Like one two)
    {offered : Nat} {operations operations' : List (Operation C)}
    (same : Operation.AllAlike shown Like offered operations operations') (start : one.offered = offered) :
    Alike shown Like (operations.foldl Ledger.perform one) (operations'.foldl Ledger.perform two) := by
  induction same generalizing one two with
  | nil offered => exact alike
  | @cons offered operation operation' later later' first rest ih =>
    refine ih (alike.perform lookalike (start ▸ first)) ?_
    rw [offered_perform, start]

def callsShown (shown : Nat → Bool) (ledger : Ledger C) : List (Nat × List Call) :=
  (ledger.records.filter fun record => shown record.serial).map fun record =>
    (record.serial, record.calls)

omit [Channel C] [Closable C] in
theorem records_veil (ledger : Ledger C) :
    (ledger.veil shown).records = ledger.records.map (Recorded.veil shown) := by
  have values := SlotTable.values_image (Slot.veil shown) ledger.registry.table
  simp only [records, veil, Registry.channels, Registry.veil, values, List.map_append, List.map_map]
  rfl

omit [Channel C] [Closable C] in
theorem callsShown_veil (ledger : Ledger C) :
    (ledger.veil shown).callsShown shown = ledger.callsShown shown := by
  unfold callsShown
  rw [records_veil, List.filter_map, List.map_map]
  refine List.map_congr_left fun record member => ?_
  have seen : shown record.serial = true := (List.mem_filter.mp member).2
  have calls : Call.veil true = id := funext Call.veil_shown
  simp [Recorded.veil, seen, calls]

-- What there is to compare in two accounts. A veiled slot still tells of its readiness, its phase, its
-- interest, the cursors of its store and the number and sizes of its calls.
structure SameView (shown : Nat → Bool) (one two : Ledger C) : Prop where
  size_eq : one.registry.size = two.registry.size
  throttled_eq : one.registry.throttled = two.registry.throttled
  vacantKey_eq : one.registry.vacantKey = two.registry.vacantKey
  hasPending_eq : one.registry.hasPending = two.registry.hasPending
  slot_eq : ∀ key, (one.registry.get? key).map (Slot.veil shown) =
    (two.registry.get? key).map (Slot.veil shown)
  placed_eq : one.placed = two.placed
  declined_eq : one.declined.map (Declined.veil shown) = two.declined.map (Declined.veil shown)
  ended_eq : one.ended.map (Ended.veil shown) = two.ended.map (Ended.veil shown)
  events_eq : one.events = two.events
  calls_eq : one.callsShown shown = two.callsShown shown

omit [Channel C] [Closable C] in
theorem Alike.sameView (alike : Alike shown Like one two) : SameView shown one two := by
  have veils := alike.veil_eq
  have registries := alike.registry_eq
  obtain ⟨-, -, -, throttled_eq⟩ := Registry.mk.inj registries
  obtain ⟨-, -, declined_eq, placed_eq, -, ended_eq, events_eq⟩ := Ledger.mk.inj veils
  refine ⟨?_, throttled_eq, ?_, ?_, ?_, placed_eq, declined_eq, ended_eq, events_eq, ?_⟩
  · rw [← Registry.size_veil shown, registries, Registry.size_veil]
  · rw [← Registry.vacantKey_veil shown, registries, Registry.vacantKey_veil]
  · rw [← Registry.hasPending_veil shown, registries, Registry.hasPending_veil]
  · intro key
    rw [← Registry.get?_veil, registries, Registry.get?_veil]
  · rw [← callsShown_veil one, veils, callsShown_veil]

-- At every moment of two such runs, the middle of a service included, the accounts agree in all but the
-- hidden bytes, and the channels whose bytes are seen had the same calls, byte for byte. The staging
-- areas stay as long as each other, so that they may serve again.
theorem hidden_bytes_stay_hidden (lookalike : Channel.Lookalike Like) (limit bufferSize : Nat)
    {operations operations' : List (Operation C)}
    (alike : Operation.AllAlike shown Like 0 operations operations') (steps : Nat) {moment : Nat}
    {scratch scratch' : Bytes} {farewell farewell' : Ended (Recorded C) → List Event}
    (last : Operation.Alike shown Like moment (.serve scratch farewell) (.serve scratch' farewell'))
    (bound : Nat) :
    let before := after limit bufferSize (operations.take steps)
    let before' := after limit bufferSize (operations'.take steps)
    SameView shown (before.serving scratch farewell bound) (before'.serving scratch' farewell' bound) ∧
      (before.registry.serveBelow scratch farewell bound).scratch.length =
        (before'.registry.serveBelow scratch' farewell' bound).scratch.length := by
  intro before before'
  have start : Alike shown Like (start limit bufferSize) (start limit bufferSize) :=
    alike_start limit bufferSize
  have run : Alike shown Like before before' := start.run lookalike (alike.take steps) rfl
  cases last with
  | serve lengths farewells =>
    obtain ⟨same, staged⟩ := run.serving lookalike lengths farewells bound
    exact ⟨same.sameView, staged⟩

-- The second channel takes the slot of the first, which is hung up on while it holds bytes.
theorem bytes_of_first_hidden_from_second :
    let both : Readiness := ⟨true, true, false⟩
    let shown : Nat → Bool := (· == 1)
    let serve (stale : UInt8) : Operation Scripted :=
      .serve [stale, stale] fun ended => [.connectionReleased ended.key "peer"]
    let operations (secret stale : UInt8) : List (Operation Scripted) :=
      [.enroll { arrivals := [.data [secret, secret]], uptakes := [.atMost 1] }, .report 0 both,
        serve stale, serve stale, .report 0 .onHangup, serve stale,
        .enroll { arrivals := [.data [4]] }, .report 0 both, serve stale, serve stale]
    let one := after 1 2 (operations 1 0)
    let two := after 1 2 (operations 9 7)
    Channel.Lookalike Scripted.Lookalike ∧
      Operation.AllAlike shown Scripted.Lookalike 0 (operations 1 0) (operations 9 7) ∧
      (∀ moment, (serve 0).Alike shown Scripted.Lookalike moment (serve 7)) ∧
      one.records.map Recorded.transmitted = [[4], [1]] ∧
      two.records.map Recorded.transmitted = [[4], [9]] ∧ SameView shown one two := by
  intro both shown serve operations one two
  have serves : ∀ moment, (serve 0).Alike shown Scripted.Lookalike moment (serve 7) :=
    fun moment => .serve rfl fun _ _ _ _ => rfl
  have alike : Operation.AllAlike shown Scripted.Lookalike 0 (operations 1 0) (operations 9 7) :=
    .cons (.enroll ⟨rfl, rfl, rfl⟩) <| .cons (.report 0 both) <| .cons (serves _) <|
      .cons (serves _) <| .cons (.report 0 .onHangup) <| .cons (serves _) <|
      .cons (.enroll ⟨rfl, rfl, rfl⟩) <| .cons (.report 0 both) <| .cons (serves _) <|
      .cons (serves _) <| .nil _
  have sent : one.records.map Recorded.transmitted = [[4], [1]] := by decide +kernel
  have sent' : two.records.map Recorded.transmitted = [[4], [9]] := by decide +kernel
  obtain ⟨view, -⟩ := hidden_bytes_stay_hidden Scripted.lookalike_scripted 1 2 alike 10 (serves 0) 0
  rw [serving_zero, serving_zero] at view
  exact ⟨Scripted.lookalike_scripted, alike, serves, sent, sent', view⟩

end Ledger

end SecureEcho
