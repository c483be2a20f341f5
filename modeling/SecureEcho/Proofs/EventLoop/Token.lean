import SecureEcho.Proofs.Connection.Supply
import SecureEcho.Proofs.EventLoop.Admission

namespace SecureEcho

namespace PollReport

structure Covers (reports : List PollReport) (token : Nat) (ready : Readiness) : Prop where
  allows : ∀ direction, ready.allows direction = true →
    ∃ report ∈ reports, report.token = token ∧ report.readiness.allows direction = true
  hangup : ready.hangup = true →
    ∃ report ∈ reports, report.token = token ∧ report.readiness.hangup = true

theorem covers_empty (reports : List PollReport) (token : Nat) : Covers reports token .empty where
  allows direction there := by cases direction <;> cases there
  hangup there := by cases there

theorem Covers.mono {reports more : List PollReport} {token : Nat} {ready : Readiness}
    (covers : Covers reports token ready) (within : reports ⊆ more) : Covers more token ready where
  allows direction there := by
    obtain ⟨report, member, same⟩ := covers.allows direction there
    exact ⟨report, within member, same⟩
  hangup there := by
    obtain ⟨report, member, same⟩ := covers.hangup there
    exact ⟨report, within member, same⟩

theorem Covers.union {reports : List PollReport} {report : PollReport} {ready : Readiness}
    (covers : Covers reports report.token ready) (member : report ∈ reports) :
    Covers reports report.token (ready.union report.readiness) where
  allows direction there := by
    rw [Readiness.allows_union, Bool.or_eq_true] at there
    rcases there with before | now
    · exact covers.allows direction before
    · exact ⟨report, member, rfl, now⟩
  hangup there := by
    rw [Readiness.hangup_union, Bool.or_eq_true] at there
    rcases there with before | now
    · exact covers.hangup before
    · exact ⟨report, member, rfl, now⟩

end PollReport

namespace Registry

variable {C : Type}

-- Each live slot is the one that its channel was registered for, and what it has on record was
-- reported under that token: `tokens` and `heard` say so for the channel with a number.
structure Known (tokens : Nat → Option Nat) (heard : Nat → List PollReport)
    (registry : Registry (Recorded C)) : Prop where
  token : ∀ key slot, registry.get? key = some slot →
    tokens slot.connection.channel.serial = some key
  ready : ∀ key slot, registry.get? key = some slot →
    PollReport.Covers (heard slot.connection.channel.serial) key slot.ready

variable {tokens : Nat → Option Nat} {heard : Nat → List PollReport} {registry : Registry (Recorded C)}

theorem known_new (limit bufferSize : Nat) :
    Known tokens heard (new limit bufferSize : Registry (Recorded C)) where
  token key slot found := by cases found
  ready key slot found := by cases found

theorem Known.mono {tokens' : Nat → Option Nat} {heard' : Nat → List PollReport}
    (known : registry.Known tokens heard)
    (same : ∀ serial key, tokens serial = some key → tokens' serial = some key)
    (more : ∀ serial key, tokens serial = some key → heard serial ⊆ heard' serial) :
    registry.Known tokens' heard' where
  token key slot found := same _ key (known.token key slot found)
  ready key slot found := (known.ready key slot found).mono (more _ key (known.token key slot found))

theorem Known.update (known : registry.Known tokens heard) {key : Nat} {old : Slot (Recorded C)}
    (found : registry.get? key = some old) {slot : Slot (Recorded C)}
    (serial : slot.connection.channel.serial = old.connection.channel.serial)
    (covers : PollReport.Covers (heard old.connection.channel.serial) key slot.ready) :
    ({ registry with table := registry.table.update key slot } : Registry (Recorded C)).Known
      tokens heard where
  token other rival there := by
    rcases SlotTable.of_get?_update found there with ⟨rfl, rfl⟩ | ⟨-, before⟩
    · rw [serial]
      exact known.token _ old found
    · exact known.token other rival before
  ready other rival there := by
    rcases SlotTable.of_get?_update found there with ⟨rfl, rfl⟩ | ⟨-, before⟩
    · rw [serial]
      exact covers
    · exact known.ready other rival before

theorem Known.report (known : registry.Known tokens heard) {report : PollReport}
    (told : ∀ serial, tokens serial = some report.token → report ∈ heard serial) :
    (registry.report report.token report.readiness).Known tokens heard := by
  unfold Registry.report
  cases found : registry.get? report.token with
  | none => exact known
  | some slot =>
    have member := told _ (known.token _ slot found)
    exact known.update found rfl ((known.ready _ slot found).union member)

theorem Known.enroll (known : registry.Known tokens heard) (sound : registry.table.Sound)
    (room : registry.hasFreeSlot = true) {record : Recorded C}
    (token : tokens record.serial = some registry.table.nextKey) :
    (registry.enroll record).2.2.Known tokens heard := by
  rw [enroll_of_room room, updateThrottle_eq]
  constructor
  · intro key slot there
    rcases sound.of_get?_insert there with ⟨rfl, rfl⟩ | before
    · exact token
    · exact known.token key slot before
  · intro key slot there
    rcases sound.of_get?_insert there with ⟨rfl, rfl⟩ | before
    · exact PollReport.covers_empty _ _
    · exact known.ready key slot before

variable [Channel C] [Closable C]

theorem Known.serveSlot (known : registry.Known tokens heard) (scratch : Bytes) (key : Nat) :
    (registry.serveSlot scratch key).registry.Known tokens heard := by
  cases found : registry.get? key with
  | none =>
    rw [serveSlot_of_free found]
    exact known
  | some slot =>
    have turned := slot.connection.turned_notify slot.ready scratch
    cases verdict : (slot.connection.notify slot.ready scratch).verdict with
    | keep =>
      obtain ⟨made, spent⟩ := turned.spent
      obtain ⟨allows, hangup⟩ := turned.readiness
      have before := known.ready key slot found
      rw [serveSlot_of_keep found turned verdict]
      refine known.update found spent.serial ⟨fun direction there => ?_, fun there => ?_⟩
      · exact before.allows direction (allows direction there)
      · exact before.hangup (hangup there)
    | close =>
      rw [serveSlot_of_close found turned verdict, vacate, updateThrottle_eq]
      constructor
      · intro other rival there
        exact known.token other rival (SlotTable.of_get?_erase found there).2
      · intro other rival there
        exact known.ready other rival (SlotTable.of_get?_erase found there).2

theorem Known.serveBelow (known : registry.Known tokens heard) (scratch : Bytes)
    (farewell : Ended (Recorded C) → List Event) (bound : Nat) :
    (registry.serveBelow scratch farewell bound).registry.Known tokens heard :=
  serveBelow_invariant (Known tokens heard) known (fun _ scratch key known => known.serveSlot scratch key)
    _ _ _

end Registry

def Arriving.numbered {C : Type} (serial : Nat) : Arriving C → Arriving (Recorded C)
  | .nobody => .nobody
  | .failed why => .failed why
  | .client peer setup registration =>
    .client peer (setup.map fun channel => { channel, serial }) registration

theorem Arriving.of_numbered {C : Type} {arriving : Arriving C} {serial : Nat} {peer : Endpoint}
    {record : Recorded C} {registration : Except IoError Unit}
    (shape : arriving.numbered serial = .client peer (.ok record) registration) :
    ∃ channel, arriving = .client peer (.ok channel) registration ∧ record = { channel, serial } := by
  cases arriving with
  | nobody | failed => cases shape
  | client peer' setup registration' =>
    cases setup with
    | error why => cases shape
    | ok channel =>
      cases shape
      exact ⟨channel, rfl, rfl⟩

def Occasion.numbered {C : Type} (serial : Nat) (occasion : Occasion C) : Occasion (Recorded C) :=
  ⟨occasion.reports, occasion.arriving.numbered serial⟩

namespace EventLoop

variable {C : Type}

def numbered (occasions : List (Occasion C)) : List (Occasion (Recorded C)) :=
  occasions.mapIdx Occasion.numbered

theorem numbered_append (earlier : List (Occasion C)) (occasion : Occasion C) :
    numbered (earlier ++ [occasion]) = numbered earlier ++ [occasion.numbered earlier.length] :=
  List.mapIdx_concat

theorem length_numbered (occasions : List (Occasion C)) :
    (numbered occasions).length = occasions.length :=
  List.length_mapIdx

def laterReports (occasions : List (Occasion C)) (serial : Nat) : List PollReport :=
  (occasions.drop (serial + 1)).flatMap Occasion.reports

theorem known_recorded {tokens : Nat → Option Nat} {heard : Nat → List PollReport}
    {loop : EventLoop (Recorded C)} (known : loop.registry.Known tokens heard)
    {reports : List PollReport}
    (told : ∀ report ∈ reports, ∀ serial, tokens serial = some report.token → report ∈ heard serial) :
    (loop.recorded reports).registry.Known tokens heard := by
  induction reports generalizing loop with
  | nil => exact known
  | cons report later ih =>
    refine ih ?_ fun other member => told other (List.mem_cons_of_mem _ member)
    unfold record
    split
    · exact known
    · exact known.report (told report List.mem_cons_self)

variable [Channel C] [Closable C]

theorem known_admission {loop : EventLoop (Recorded C)} (regulated : loop.Regulated)
    {tokens : Nat → Option Nat} {heard : Nat → List PollReport}
    (known : loop.registry.Known tokens heard) {serial : Nat} (arriving : Arriving C)
    (token : tokens serial = (loop.admission (arriving.numbered serial)).registered) :
    (loop.admission (arriving.numbered serial)).loop.registry.Known tokens heard := by
  have admitted := regulated.admitted (arriving.numbered serial)
  generalize loop.admission (arriving.numbered serial) = acceptance at admitted token
  generalize shape : arriving.numbered serial = numbered at admitted
  cases admitted with
  | closed | nobody | failed | setupFailed | registrationFailed => exact known
  | enrolled wants room peer record =>
    obtain ⟨channel, -, rfl⟩ := Arriving.of_numbered shape
    exact known.enroll regulated.sound room token

variable [Addressed C]

def rounds (occasions : List (Occasion C)) : List (Round (Recorded C)) :=
  start.run (numbered occasions)

def token (occasions : List (Occasion C)) (serial : Nat) : Option Nat :=
  (rounds occasions)[serial]?.bind Round.registered

def reached (occasions : List (Occasion C)) : EventLoop (Recorded C) :=
  start.after (numbered occasions)

def round (earlier : List (Occasion C)) (occasion : Occasion C) : Round (Recorded C) :=
  (reached earlier).next (occasion.numbered earlier.length)

theorem rounds_append (earlier : List (Occasion C)) (occasion : Occasion C) :
    rounds (earlier ++ [occasion]) = rounds earlier ++ [round earlier occasion] := by
  unfold rounds
  rw [numbered_append, run_append]
  rfl

theorem length_rounds (occasions : List (Occasion C)) : (rounds occasions).length = occasions.length := by
  rw [rounds, length_run, length_numbered]

theorem reached_append (earlier : List (Occasion C)) (occasion : Occasion C) :
    reached (earlier ++ [occasion]) = (round earlier occasion).loop := by
  unfold reached
  rw [numbered_append, after_append]
  rfl

theorem lt_length_of_token {occasions : List (Occasion C)} {serial key : Nat}
    (registered : token occasions serial = some key) : serial < occasions.length := by
  obtain ⟨round, there, -⟩ := Option.bind_eq_some_iff.mp registered
  rw [← length_rounds]
  exact (List.getElem?_eq_some_iff.mp there).1

theorem token_append {earlier : List (Occasion C)} {serial key : Nat}
    (registered : token earlier serial = some key) (occasion : Occasion C) :
    token (earlier ++ [occasion]) serial = some key := by
  have early := lt_length_of_token registered
  rw [← length_rounds] at early
  unfold token at registered ⊢
  rw [rounds_append, List.getElem?_append_left early]
  exact registered

theorem token_length (earlier : List (Occasion C)) (occasion : Occasion C) :
    token (earlier ++ [occasion]) earlier.length = (round earlier occasion).registered := by
  unfold token
  rw [rounds_append, ← length_rounds, List.getElem?_concat_length]
  rfl

theorem laterReports_append {earlier : List (Occasion C)} {serial key : Nat}
    (registered : token earlier serial = some key) (occasion : Occasion C) :
    laterReports (earlier ++ [occasion]) serial = laterReports earlier serial ++ occasion.reports := by
  have early := lt_length_of_token registered
  unfold laterReports
  rw [List.drop_append_of_le_length early, List.flatMap_append, List.flatMap_singleton]

variable {earlier : List (Occasion C)} {occasion : Occasion C}

theorem known_recording (known : (reached earlier).registry.Known (token earlier) (laterReports earlier))
    {seen : List PollReport} (within : seen ⊆ occasion.reports) :
    ((reached earlier).recorded seen).registry.Known (token (earlier ++ [occasion]))
      (laterReports (earlier ++ [occasion])) := by
  -- A token may be given out in this very round, and then the reports are not about the newcomer. So
  -- they are recorded by the tokens of the earlier rounds, and the newcomer is known only afterwards.
  have before : (reached earlier).registry.Known (token earlier)
      (laterReports (earlier ++ [occasion])) :=
    known.mono (fun _ _ => id) fun serial key registered => by
      rw [laterReports_append registered]
      exact List.subset_append_left _ _
  have told : ∀ report ∈ seen, ∀ serial, token earlier serial = some report.token →
      report ∈ laterReports (earlier ++ [occasion]) serial := by
    intro report member serial registered
    rw [laterReports_append registered]
    exact List.mem_append_right _ (within member)
  exact (known_recorded before told).mono (fun _ _ registered => token_append registered occasion)
    fun _ _ _ _ => id

theorem known_moment (known : (reached earlier).registry.Known (token earlier) (laterReports earlier))
    {registry : Registry (Recorded C)}
    (moment : Moment (reached earlier) (occasion.numbered earlier.length) registry) :
    registry.Known (token (earlier ++ [occasion])) (laterReports (earlier ++ [occasion])) := by
  cases moment with
  | recording part => exact known_recording known part.subset
  | serving admission bound =>
    have regulated : (reached earlier).Regulated := regulated_start.after (numbered earlier)
    have recorded := known_recording known (List.Subset.refl occasion.reports)
    have admitted := known_admission (regulated.recorded occasion.reports).1 recorded occasion.arriving
      (token_length earlier occasion)
    subst admission
    exact admitted.serveBelow _ _ bound

theorem known_reached (occasions : List (Occasion C)) :
    (reached occasions).registry.Known (token occasions) (laterReports occasions) := by
  induction occasions using List.reverseRecOn with
  | nil => exact Registry.known_new _ _
  | append_singleton earlier occasion ih =>
    rw [reached_append]
    exact known_moment ih (.serving rfl _)

structure Orderly (earlier : List (Occasion C)) (occasion : Occasion C) : Prop where
  asks_with_room : (round earlier occasion).asked = true →
    ((reached earlier).recorded occasion.reports).registry.size < maxConnections - 1
  never_refuses : ∀ peer, .limitReached peer ∉ (round earlier occasion).events
  enrolled_eq : (round earlier occasion).enrolled = (round earlier occasion).registered
  size_le : ∀ registry, Moment (reached earlier) (occasion.numbered earlier.length) registry →
    registry.size ≤ maxConnections - 1
  token_eq : ∀ registry, Moment (reached earlier) (occasion.numbered earlier.length) registry →
    ∀ key slot, registry.get? key = some slot →
      token (earlier ++ [occasion]) slot.connection.channel.serial = some key ∧
        key < maxConnections - 1 ∧ key ≠ listenerToken
  tokens_apart : ∀ registry, Moment (reached earlier) (occasion.numbered earlier.length) registry →
    ∀ one two slot rival, registry.get? one = some slot → registry.get? two = some rival → one ≠ two →
      token (earlier ++ [occasion]) slot.connection.channel.serial ≠
        token (earlier ++ [occasion]) rival.connection.channel.serial
  failure_unchanged : ∀ peer setup registration,
    occasion.arriving = .client peer setup registration →
    (∃ why, setup = .error why ∨ registration = .error why) →
    (((reached earlier).recorded occasion.reports).admission
      (occasion.arriving.numbered earlier.length)).loop = (reached earlier).recorded occasion.reports
  newcomer_untouched : ∀ key, (round earlier occasion).enrolled = some key →
    ∃ peer channel, occasion.arriving = .client peer (.ok channel) (.ok ()) ∧
      (round earlier occasion).loop.registry.get? key =
        some ⟨.new { channel, serial := earlier.length } bufferSize, .empty⟩
  ready_reported_later : ∀ registry,
    Moment (reached earlier) (occasion.numbered earlier.length) registry →
    ∀ key slot, registry.get? key = some slot →
      PollReport.Covers (laterReports (earlier ++ [occasion]) slot.connection.channel.serial) key
        slot.ready

theorem clients_admitted_orderly (earlier : List (Occasion C)) (occasion : Occasion C) :
    Orderly earlier occasion := by
  have regulated : (reached earlier).Regulated := regulated_start.after (numbered earlier)
  obtain ⟨recorded, size⟩ := regulated.recorded occasion.reports
  have known := known_reached earlier
  constructor
  · exact fun asked => (recorded.wantsClient_iff.mp asked).2
  · intro peer member
    rcases List.mem_append.mp member with admitting | serving
    · exact recorded.no_refusal_admission _ peer admitting
    · exact Registry.no_refusal_serveBelow _ _ (fun ended => by simp [farewell]) _ serving
  · exact recorded.enrolled_eq_registered (occasion.arriving.numbered earlier.length)
  · exact fun registry moment => (regulated.moment moment).size_le
  · intro registry moment key slot found
    have below := (regulated.moment moment).lt_limit found
    refine ⟨(known_moment known moment).token key slot found, below, ?_⟩
    unfold maxConnections at below
    unfold listenerToken
    omega
  · intro registry moment one two slot rival here there apart same
    have tokens := (known_moment known moment).token
    rw [tokens one slot here, tokens two rival there] at same
    exact apart (Option.some.inj same)
  · rintro peer setup registration arrives ⟨why, failure⟩
    rw [arrives]
    have failed : (setup.map fun channel => ({ channel, serial := earlier.length } : Recorded C)) =
        .error why ∨ registration = .error why := by
      rcases failure with rfl | rfl
      · exact .inl rfl
      · exact .inr rfl
    exact recorded.unchanged_of_failure failed
  · intro key enrolled
    obtain ⟨peer, record, shape, placed⟩ := recorded.of_enrolled enrolled
    obtain ⟨channel, arrives, rfl⟩ := Arriving.of_numbered shape
    exact ⟨peer, channel, arrives, Registry.get?_serveBelow_of_unready placed rfl _ _ _⟩
  · exact fun registry moment => (known_moment known moment).ready

-- The second client gets the token of the first, which had hung up; a third is not registered.
example :
    let peer : Endpoint := ⟨.loopback, 4433⟩
    let announced : PollReport := { token := listenerToken, readable := true }
    let hangup : PollReport := { token := 0, failed := true }
    let client : Arriving Scripted := .client peer (.ok {}) (.ok ())
    let stray : Arriving Scripted := .client peer (.ok {}) (.error ⟨.other, ""⟩)
    let occasions := [⟨[announced], client⟩, ⟨[hangup], .nobody⟩, ⟨[announced, hangup], client⟩, ⟨[], stray⟩]
    (List.range 4).map (token occasions) = [some 0, none, some 0, none] ∧
      (rounds occasions).map Round.asked = [true, true, true, true] := by
  decide +kernel

end EventLoop

end SecureEcho
