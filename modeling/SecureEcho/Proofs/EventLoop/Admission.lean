import SecureEcho.Proofs.EventLoop.Run

namespace SecureEcho

-- That a client was refused is said by nothing that a table or a connection does.

theorem Registry.no_refusal_updateThrottle {C : Type} (registry : Registry C) (peer : String) :
    .limitReached peer ∉ registry.updateThrottle.1 := by
  unfold updateThrottle
  dsimp only
  split
  · exact List.not_mem_nil
  · split <;> simp

theorem Event.no_refusal_of_told {events : List Event}
    (told : ∀ event ∈ events, event.ofConnection = true) (peer : String) : .limitReached peer ∉ events := by
  intro member
  cases told _ member

namespace Registry

variable {C : Type} [Channel C] [Closable C]

theorem no_refusal_serveSlot (registry : Registry C) (scratch : Bytes) (key : Nat) (peer : String) :
    .limitReached peer ∉ (registry.serveSlot scratch key).events := by
  cases found : registry.get? key with
  | none => simp [serveSlot_of_free found]
  | some slot =>
    have turned := slot.connection.turned_notify slot.ready scratch
    have quiet := Event.no_refusal_of_told turned.told peer
    cases verdict : (slot.connection.notify slot.ready scratch).verdict with
    | keep =>
      rw [serveSlot_of_keep found turned verdict]
      exact quiet
    | close =>
      have retries : .limitReached peer ∉ (slot.connection.notify slot.ready scratch).connection.close.1 :=
        Event.no_refusal_of_told (Connection.told_closeWithin _ _ 0) peer
      have change : .limitReached peer ∉ (registry.vacate key).1 := no_refusal_updateThrottle _ peer
      rw [serveSlot_of_close found turned verdict]
      simp [quiet, retries, change]

theorem no_refusal_serveBelow (registry : Registry C) (scratch : Bytes)
    {farewell : Ended C → List Event} {peer : String}
    (silent : ∀ ended, .limitReached peer ∉ farewell ended) (bound : Nat) :
    .limitReached peer ∉ (registry.serveBelow scratch farewell bound).events := by
  induction bound with
  | zero => exact List.not_mem_nil
  | succ bound ih =>
    have slot := no_refusal_serveSlot (registry.serveBelow scratch farewell bound).registry
      (registry.serveBelow scratch farewell bound).scratch bound peer
    rw [serveBelow_succ]
    unfold Service.andThen
    simp [ih, slot, silent]

end Registry

namespace EventLoop

variable {C : Type} [Channel C] [Closable C] {loop : EventLoop C}

theorem Regulated.no_refusal_admission (regulated : loop.Regulated) (arriving : Arriving C)
    (peer : String) : .limitReached peer ∉ (loop.admission arriving).events := by
  have admitted := regulated.admitted arriving
  generalize loop.admission arriving = acceptance at admitted
  cases admitted with
  | closed | nobody | failed | setupFailed | registrationFailed => simp
  | enrolled wants room _ channel =>
    have change : .limitReached peer ∉ (loop.registry.enroll channel).2.1 := by
      rw [Registry.enroll_of_room room]
      exact Registry.no_refusal_updateThrottle _ peer
    simp [change]

theorem Regulated.enrolled_eq_registered (regulated : loop.Regulated) (arriving : Arriving C) :
    (loop.admission arriving).enrolled = (loop.admission arriving).registered := by
  have admitted := regulated.admitted arriving
  generalize loop.admission arriving = acceptance at admitted
  cases admitted <;> rfl

theorem Regulated.unchanged_of_failure (regulated : loop.Regulated) {peer : Endpoint}
    {setup : Except IoError C} {registration : Except IoError Unit} {why : IoError}
    (failure : setup = .error why ∨ registration = .error why) :
    (loop.admission (.client peer setup registration)).loop = loop := by
  have admitted := regulated.admitted (.client peer setup registration)
  generalize loop.admission (.client peer setup registration) = acceptance at admitted
  cases admitted with
  | closed | setupFailed | registrationFailed => rfl
  | enrolled => rcases failure with same | same <;> cases same

theorem Regulated.of_enrolled (regulated : loop.Regulated) {arriving : Arriving C} {key : Nat}
    (enrolled : (loop.admission arriving).enrolled = some key) :
    ∃ peer channel, arriving = .client peer (.ok channel) (.ok ()) ∧
      (loop.admission arriving).loop.registry.get? key = some ⟨.new channel bufferSize, .empty⟩ := by
  have admitted := regulated.admitted arriving
  generalize loop.admission arriving = acceptance at admitted enrolled
  cases admitted with
  | closed | nobody | failed | setupFailed | registrationFailed => cases enrolled
  | enrolled wants room peer channel =>
    obtain rfl : loop.registry.table.nextKey = key := Option.some.inj enrolled
    refine ⟨peer, channel, rfl, ?_⟩
    dsimp only
    rw [Registry.enroll_of_room room, Registry.updateThrottle_eq,
      Registry.Regulated.bufferSize_eq regulated]
    exact ((Registry.Regulated.sound regulated).get?_insert _ _).trans (if_pos rfl)

-- A client that is registered gets its slot, so none has to be deregistered again.
theorem turnedAway_eq_none [Addressed C] (earlier : List (Occasion C)) (occasion : Occasion C) :
    (((start : EventLoop C).after earlier).next occasion).turnedAway = none := by
  obtain ⟨reports, arriving⟩ := occasion
  have regulated := ((regulated_start (C := C)).after earlier).recorded reports
  have admitted := regulated.1.admitted arriving
  rw [next_eq]
  dsimp only
  generalize (((start : EventLoop C).after earlier).recorded reports).admission arriving =
    acceptance at admitted
  cases admitted <;> rfl

end EventLoop

end SecureEcho
