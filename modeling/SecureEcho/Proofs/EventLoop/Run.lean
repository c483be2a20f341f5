import Mathlib.Data.List.Induction
import SecureEcho.Channel
import SecureEcho.EventLoop
import SecureEcho.Proofs.Registry.Throttle

namespace SecureEcho

-- A script has no peer of its own.
instance : Addressed Scripted := ⟨fun _ => ⟨.loopback, 4433⟩⟩

instance {C : Type} [Addressed C] : Addressed (Recorded C) := ⟨fun record => Addressed.peer record.channel⟩

namespace EventLoop

variable {C : Type}

def recorded (loop : EventLoop C) (reports : List PollReport) : EventLoop C :=
  reports.foldl record loop

theorem recorded_append (loop : EventLoop C) (reports more : List PollReport) :
    loop.recorded (reports ++ more) = (loop.recorded reports).recorded more :=
  List.foldl_append

-- The throttle tells the truth about a table of the size that the loop was started with.
def Regulated (loop : EventLoop C) : Prop :=
  loop.registry.Regulated (maxConnections - 1) bufferSize

theorem regulated_start : (start : EventLoop C).Regulated := Registry.regulated_new

theorem Regulated.room_iff {loop : EventLoop C} (regulated : loop.Regulated) :
    loop.registry.hasFreeSlot = true ↔ loop.registry.size < maxConnections - 1 :=
  Registry.Regulated.hasFreeSlot_iff regulated

theorem Regulated.wantsClient_iff {loop : EventLoop C} (regulated : loop.Regulated) :
    loop.wantsClient = true ↔
      loop.listenerReady = true ∧ loop.registry.size < maxConnections - 1 := by
  have throttled := Registry.Regulated.throttled_eq regulated
  rw [wantsClient, throttled, Bool.not_not, Bool.and_eq_true, regulated.room_iff]

theorem Regulated.record {loop : EventLoop C} (regulated : loop.Regulated) (report : PollReport) :
    (loop.record report).Regulated ∧ (loop.record report).registry.size = loop.registry.size := by
  unfold EventLoop.record
  split
  · exact ⟨regulated, rfl⟩
  · exact Registry.Regulated.report regulated report.token report.readiness

theorem Regulated.recorded {loop : EventLoop C} (regulated : loop.Regulated)
    (reports : List PollReport) :
    (loop.recorded reports).Regulated ∧ (loop.recorded reports).registry.size = loop.registry.size := by
  induction reports generalizing loop with
  | nil => exact ⟨regulated, rfl⟩
  | cons report later ih =>
    obtain ⟨next, size⟩ := regulated.record report
    obtain ⟨last, same⟩ := ih next
    exact ⟨last, same.trans size⟩

theorem Regulated.closed_of_full {loop : EventLoop C} (regulated : loop.Regulated)
    (full : loop.registry.size = maxConnections - 1) (reports : List PollReport) :
    (loop.recorded reports).wantsClient = false := by
  obtain ⟨recorded, size⟩ := regulated.recorded reports
  rw [← Bool.not_eq_true, recorded.wantsClient_iff, size, full]
  exact fun wants => Nat.lt_irrefl _ wants.2

variable [Channel C] [Closable C]

def admission (loop : EventLoop C) (arriving : Arriving C) : Acceptance C :=
  if loop.wantsClient then loop.acceptOne arriving else { loop }

theorem admission_of_closed {loop : EventLoop C} (closed : loop.wantsClient = false)
    (arriving : Arriving C) : loop.admission arriving = { loop } := by
  simp [admission, closed]

-- What an admission comes to where the throttle tells the truth: nobody is asked for, or there is a
-- slot for whoever comes.
inductive Admitted (loop : EventLoop C) : Arriving C → Acceptance C → Prop where
  | closed {arriving : Arriving C} (closed : loop.wantsClient = false) :
      Admitted loop arriving { loop }
  | nobody (wants : loop.wantsClient = true) :
      Admitted loop .nobody { loop := { loop with listenerReady := false } }
  | failed (wants : loop.wantsClient = true) (why : IoError) :
      Admitted loop (.failed why) { loop, events := [.acceptFailed why] }
  | setupFailed (wants : loop.wantsClient = true) (peer : Endpoint) (why : IoError)
      (registration : Except IoError Unit) :
      Admitted loop (.client peer (.error why) registration)
        { loop, events := [.setupFailed peer.text why] }
  | registrationFailed (wants : loop.wantsClient = true) (peer : Endpoint) (channel : C)
      (why : IoError) :
      Admitted loop (.client peer (.ok channel) (.error why))
        { loop, events := [.registrationFailed peer.text why] }
  | enrolled (wants : loop.wantsClient = true) (room : loop.registry.hasFreeSlot = true)
      (peer : Endpoint) (channel : C) :
      Admitted loop (.client peer (.ok channel) (.ok ()))
        { loop := { loop with registry := (loop.registry.enroll channel).2.2 }
          registered := some loop.registry.table.nextKey
          enrolled := some loop.registry.table.nextKey
          events := (loop.registry.enroll channel).2.1 ++
            [.connectionAccepted loop.registry.table.nextKey peer.text
              (loop.registry.enroll channel).2.2.size] }

theorem admitted_acceptOne {loop : EventLoop C} (wants : loop.wantsClient = true)
    (room : loop.registry.hasFreeSlot = true) (arriving : Arriving C) :
    Admitted loop arriving (loop.acceptOne arriving) := by
  have vacant : loop.registry.vacantKey = some loop.registry.table.nextKey :=
    Registry.vacantKey_eq_some.mpr ⟨room, rfl⟩
  cases arriving with
  | nobody => exact .nobody wants
  | failed why => exact .failed wants why
  | client peer setup registration =>
    simp only [acceptOne, welcome, vacant]
    cases setup with
    | error why => exact .setupFailed wants peer why registration
    | ok channel =>
      cases registration with
      | error why => exact .registrationFailed wants peer channel why
      | ok done =>
        have welcomed : Admitted loop _ _ := .enrolled wants room peer channel
        have place : (loop.registry.enroll channel).1 = .ok loop.registry.table.nextKey := by
          rw [Registry.enroll_of_room room]
        rcases answer : loop.registry.enroll channel with ⟨key, events, registry⟩
        rw [answer] at place welcomed
        cases place
        simp only [answer]
        exact welcomed

theorem Regulated.admitted {loop : EventLoop C} (regulated : loop.Regulated) (arriving : Arriving C) :
    Admitted loop arriving (loop.admission arriving) := by
  cases wants : loop.wantsClient with
  | false =>
    rw [admission_of_closed wants]
    exact .closed wants
  | true =>
    rw [admission, if_pos wants]
    exact admitted_acceptOne wants (regulated.room_iff.mpr (regulated.wantsClient_iff.mp wants).2) arriving

theorem Regulated.admission {loop : EventLoop C} (regulated : loop.Regulated) (arriving : Arriving C) :
    (loop.admission arriving).loop.Regulated := by
  have admitted := regulated.admitted arriving
  generalize loop.admission arriving = acceptance at admitted
  cases admitted with
  | closed | nobody | failed | setupFailed | registrationFailed => exact regulated
  | enrolled wants room peer channel => exact (Registry.Regulated.enroll regulated room channel).1

variable [Addressed C]

def service (loop : EventLoop C) (occasion : Occasion C) : Registry.Service C :=
  let admitted := ((loop.recorded occasion.reports).admission occasion.arriving).loop
  admitted.registry.serveAll admitted.scratch farewell

theorem next_eq (loop : EventLoop C) (occasion : Occasion C) :
    let recorded := loop.recorded occasion.reports
    let acceptance := recorded.admission occasion.arriving
    loop.next occasion =
      { wait := loop.wait
        asked := recorded.wantsClient
        registered := acceptance.registered
        enrolled := acceptance.enrolled
        turnedAway := acceptance.turnedAway
        ended := (loop.service occasion).ended
        events := acceptance.events ++ (loop.service occasion).events
        loop :=
          { acceptance.loop with
            registry := (loop.service occasion).registry
            scratch := (loop.service occasion).scratch } } := rfl

theorem Regulated.service_of_full {loop : EventLoop C} (regulated : loop.Regulated)
    (full : loop.registry.size = maxConnections - 1) (occasion : Occasion C) :
    loop.service occasion =
      (loop.recorded occasion.reports).registry.serveAll (loop.recorded occasion.reports).scratch
        farewell := by
  unfold service
  rw [admission_of_closed (regulated.closed_of_full full occasion.reports)]

theorem Regulated.next {loop : EventLoop C} (regulated : loop.Regulated) (occasion : Occasion C) :
    (loop.next occasion).loop.Regulated :=
  have admitted := (regulated.recorded occasion.reports).1.admission occasion.arriving
  (Registry.Regulated.serveBelow admitted _ _ _).1

-- The registry at the moments of a round: while reports are recorded, and while slots are served.
inductive Moment (loop : EventLoop C) (occasion : Occasion C) : Registry C → Prop where
  | recording {seen : List PollReport} (part : seen <+: occasion.reports) :
      Moment loop occasion (loop.recorded seen).registry
  | serving {admitted : EventLoop C}
      (admission : ((loop.recorded occasion.reports).admission occasion.arriving).loop = admitted)
      (bound : Nat) :
      Moment loop occasion (admitted.registry.serveBelow admitted.scratch farewell bound).registry

theorem Regulated.moment {loop : EventLoop C} (regulated : loop.Regulated) {occasion : Occasion C}
    {registry : Registry C} (moment : Moment loop occasion registry) :
    registry.Regulated (maxConnections - 1) bufferSize := by
  cases moment with
  | recording part => exact (regulated.recorded _).1
  | serving admission bound =>
    have admitted := (regulated.recorded occasion.reports).1.admission occasion.arriving
    rw [admission] at admitted
    exact (Registry.Regulated.serveBelow admitted _ _ _).1

def after (loop : EventLoop C) (occasions : List (Occasion C)) : EventLoop C :=
  occasions.foldl (fun loop occasion => (loop.next occasion).loop) loop

theorem after_append (loop : EventLoop C) (earlier later : List (Occasion C)) :
    loop.after (earlier ++ later) = (loop.after earlier).after later :=
  List.foldl_append

theorem run_append (loop : EventLoop C) (earlier later : List (Occasion C)) :
    loop.run (earlier ++ later) = loop.run earlier ++ (loop.after earlier).run later := by
  induction earlier generalizing loop with
  | nil => rfl
  | cons occasion earlier ih =>
    rw [List.cons_append, run, run, ih]
    rfl

theorem length_run (loop : EventLoop C) (occasions : List (Occasion C)) :
    (loop.run occasions).length = occasions.length := by
  induction occasions generalizing loop with
  | nil => rfl
  | cons occasion later ih =>
    rw [run, List.length_cons, List.length_cons, ih]

theorem Regulated.after {loop : EventLoop C} (regulated : loop.Regulated)
    (occasions : List (Occasion C)) : (loop.after occasions).Regulated := by
  induction occasions generalizing loop with
  | nil => exact regulated
  | cons occasion later ih => exact ih (regulated.next occasion)

end EventLoop

end SecureEcho
