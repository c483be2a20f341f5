import SecureEcho.Proofs.EventLoop.Run

namespace SecureEcho

namespace Registry

variable {C : Type} [Channel C] [Closable C] {registry : Registry C}

theorem serveBelow_of_unready
    (unready : ∀ key slot, registry.get? key = some slot → slot.ready = .empty) (scratch : Bytes)
    (farewell : Ended C → List Event) (bound : Nat) :
    registry.serveBelow scratch farewell bound = ⟨registry, scratch, [], []⟩ := by
  refine serveBelow_of_not_pending ?_ scratch farewell bound
  cases pending : registry.hasPending with
  | false => rfl
  | true =>
    obtain ⟨key, slot, found, busy⟩ := hasPending_iff.mp pending
    rw [unready key slot found] at busy
    exact absurd busy Bool.false_ne_true

end Registry

namespace EventLoop

variable {C : Type}

-- So many clients are let in, and nothing has been reported for any of them.
structure Crowded (count : Nat) (loop : EventLoop C) : Prop where
  regulated : loop.Regulated
  size_eq : loop.registry.size = count
  unready : ∀ key slot, loop.registry.get? key = some slot → slot.ready = .empty

theorem crowded_start : Crowded 0 (start : EventLoop C) where
  regulated := regulated_start
  size_eq := rfl
  unready key slot found := by cases found

def announcement : PollReport := { token := listenerToken, readable := true }

def greeting (peer : Endpoint) (channel : C) : Occasion C :=
  ⟨[announcement], .client peer (.ok channel) (.ok ())⟩

variable [Channel C] [Closable C] [Addressed C]

theorem Crowded.greeted {count : Nat} {loop : EventLoop C} (crowded : Crowded count loop)
    (room : count < maxConnections - 1) (peer : Endpoint) (channel : C) :
    Crowded (count + 1) (loop.next (greeting peer channel)).loop := by
  obtain ⟨regulated, size_eq, unready⟩ := crowded
  have free : loop.registry.hasFreeSlot = true := regulated.room_iff.mpr (size_eq.symm ▸ room)
  have heard : (loop.recorded [announcement]).Regulated := (regulated.recorded [announcement]).1
  have wants : (loop.recorded [announcement]).wantsClient = true :=
    heard.wantsClient_iff.mpr ⟨by simp [recorded, record, announcement], size_eq.symm ▸ room⟩
  have placed : ((loop.recorded [announcement]).admission
      (.client peer (.ok channel) (.ok ()))).loop.registry = (loop.registry.enroll channel).2.2 := by
    have admitted := heard.admitted (.client peer (.ok channel) (.ok ()))
    generalize (loop.recorded [announcement]).admission _ = acceptance at admitted ⊢
    cases admitted with
    | closed closed => exact absurd (wants.symm.trans closed) Bool.noConfusion
    | enrolled => rfl
  have still : ∀ key slot, (loop.registry.enroll channel).2.2.get? key = some slot →
      slot.ready = .empty := by
    rw [Registry.enroll_of_room free, Registry.updateThrottle_eq]
    intro key slot there
    rcases (Registry.Regulated.sound regulated).of_get?_insert there with ⟨-, rfl⟩ | before
    · rfl
    · exact unready key slot before
  have served : (loop.next (greeting peer channel)).loop.registry =
      (loop.registry.enroll channel).2.2 := by
    have quiet := Registry.serveBelow_of_unready (placed ▸ still)
    rw [next_eq]
    exact (congrArg Registry.Service.registry (quiet _ _ _)).trans placed
  refine ⟨regulated.next _, ?_, served ▸ still⟩
  rw [served, (Registry.Regulated.enroll regulated free channel).2, size_eq]

theorem crowded_after_greetings (peer : Endpoint) (channels : List C)
    (fit : channels.length ≤ maxConnections - 1) :
    Crowded channels.length ((start : EventLoop C).after (channels.map (greeting peer))) := by
  induction channels using List.reverseRecOn with
  | nil => exact crowded_start
  | append_singleton earlier channel ih =>
    rw [List.length_append, List.length_singleton] at fit ⊢
    rw [List.map_append, after_append]
    exact (ih (by omega)).greeted (by omega) peer channel

theorem Crowded.waited {loop : EventLoop C} (crowded : Crowded (maxConnections - 1) loop)
    (arriving : Arriving C) :
    (loop.next ⟨[announcement], arriving⟩).ended = [] ∧
      Crowded (maxConnections - 1) (loop.next ⟨[announcement], arriving⟩).loop := by
  obtain ⟨regulated, size_eq, unready⟩ := crowded
  have kept : loop.service ⟨[announcement], arriving⟩ = ⟨loop.registry, loop.scratch, [], []⟩ :=
    (regulated.service_of_full size_eq _).trans (Registry.serveBelow_of_unready unready _ _ _)
  have same : (loop.next ⟨[announcement], arriving⟩).loop.registry = loop.registry :=
    congrArg Registry.Service.registry kept
  exact ⟨congrArg Registry.Service.ended kept, regulated.next _, same ▸ size_eq, same ▸ unready⟩

theorem Crowded.hungUp {loop : EventLoop C} (crowded : Crowded (maxConnections - 1) loop) {key : Nat}
    (inside : key < maxConnections - 1) (arriving : Arriving C) :
    (loop.next ⟨[{ token := key, failed := true }], arriving⟩).ended ≠ [] := by
  obtain ⟨regulated, size_eq, -⟩ := crowded
  obtain ⟨slot, found⟩ := Registry.Regulated.found_of_full regulated size_eq inside
  have other : key ≠ listenerToken := by
    unfold maxConnections at inside
    unfold listenerToken
    omega
  let report : PollReport := { token := key, failed := true }
  have reported : (loop.recorded [report]).registry = loop.registry.report key report.readiness := by
    simp [recorded, record, report, other]
  have there : (loop.recorded [report]).registry.get? key =
      some { slot with ready := slot.ready.union report.readiness } := by
    rw [reported]
    exact Registry.get?_report found _
  have hangup : (slot.ready.union report.readiness).hangup = true := by
    simp [report, PollReport.readiness]
  have limit_eq := Registry.Regulated.limit_eq (regulated.recorded [report]).1
  have member := Registry.ended_of_hangup there hangup (loop.recorded [report]).scratch
    farewell (limit_eq ▸ inside : key < (loop.recorded [report]).registry.limit)
  have served : (loop.next ⟨[report], arriving⟩).ended = _ :=
    congrArg Registry.Service.ended (regulated.service_of_full size_eq ⟨[report], arriving⟩)
  rw [served]
  exact List.ne_nil_of_mem member

end EventLoop

end SecureEcho
