import SecureEcho.Proofs.EventLoop.Crowd

namespace SecureEcho

-- What the loop gets to know about the clients in line: the poll says that there are some, or an
-- accept finds none left.
inductive Tiding where
  | announced
  | exhausted
deriving DecidableEq, Repr

namespace Tiding

def Outstanding (history : List Tiding) : Prop :=
  ∃ earlier later, history = earlier ++ announced :: later ∧ exhausted ∉ later

theorem not_outstanding_nil : ¬ Outstanding [] := by
  rintro ⟨earlier, later, split, -⟩
  simp at split

theorem outstanding_announced (history : List Tiding) : Outstanding (history ++ [announced]) :=
  ⟨history, [], rfl, List.not_mem_nil⟩

theorem not_outstanding_exhausted (history : List Tiding) : ¬ Outstanding (history ++ [exhausted]) := by
  rintro ⟨earlier, later, split, left⟩
  rcases List.eq_nil_or_concat later with rfl | ⟨front, final, rfl⟩
  · obtain ⟨-, same⟩ := List.append_inj' split rfl
    cases same
  · have split : history ++ [exhausted] = (earlier ++ announced :: front) ++ [final] := by simpa using split
    obtain ⟨-, same⟩ := List.append_inj' split rfl
    obtain rfl : exhausted = final := List.head_eq_of_cons_eq same
    exact left (by simp)

end Tiding

def PollReport.tidings (report : PollReport) : List Tiding :=
  if report.token = EventLoop.listenerToken ∧ report.readable = true then [.announced] else []

def Arriving.tidings {C : Type} : Arriving C → List Tiding
  | .nobody => [.exhausted]
  | .failed _ | .client .. => []

namespace EventLoop

open Tiding

variable {C : Type}

theorem listenerReady_recorded {loop : EventLoop C} {history : List Tiding}
    (before : loop.listenerReady = true ↔ Outstanding history) (reports : List PollReport) :
    (loop.recorded reports).listenerReady = true ↔
      Outstanding (history ++ reports.flatMap PollReport.tidings) := by
  induction reports generalizing loop history with
  | nil => simpa [recorded] using before
  | cons report later ih =>
    have step : (loop.record report).listenerReady = true ↔ Outstanding (history ++ report.tidings) := by
      unfold record PollReport.tidings
      by_cases listener : report.token = listenerToken
      · cases readable : report.readable with
        | true => simp [listener, outstanding_announced]
        | false => simpa [listener] using before
      · simpa [listener] using before
    rw [List.flatMap_cons, ← List.append_assoc]
    exact ih step

theorem listenerReady_of_ready {loop : EventLoop C} (ready : loop.listenerReady = true)
    (reports : List PollReport) : (loop.recorded reports).listenerReady = true := by
  induction reports generalizing loop with
  | nil => exact ready
  | cons report later ih =>
    refine ih ?_
    unfold record
    split
    · simp [ready]
    · exact ready

theorem Regulated.hasPending_iff {loop : EventLoop C} (regulated : loop.Regulated) :
    loop.hasPending = true ↔
      loop.listenerReady = true ∧ loop.registry.size < maxConnections - 1 ∨
        ∃ key slot, loop.registry.get? key = some slot ∧
          slot.connection.isActionable slot.ready = true := by
  rw [hasPending, Bool.or_eq_true, regulated.wantsClient_iff, Registry.hasPending_iff]

theorem wait_eq_never {loop : EventLoop C} : loop.wait = .never ↔ loop.hasPending = true := by
  unfold wait
  split <;> simp_all

variable [Channel C] [Closable C]

theorem listenerReady_admission {loop : EventLoop C} (regulated : loop.Regulated)
    {history : List Tiding} (before : loop.listenerReady = true ↔ Outstanding history)
    (arriving : Arriving C) :
    (loop.admission arriving).loop.listenerReady = true ↔
      Outstanding (history ++ if loop.wantsClient then arriving.tidings else []) := by
  have admitted := regulated.admitted arriving
  generalize loop.admission arriving = acceptance at admitted
  cases admitted with
  | closed closed => simpa [closed] using before
  | nobody wants => simp [wants, Arriving.tidings, not_outstanding_exhausted]
  | failed wants | setupFailed wants | registrationFailed wants | enrolled wants =>
    simpa [wants, Arriving.tidings] using before

variable [Addressed C]

def tidings (loop : EventLoop C) (occasion : Occasion C) : List Tiding :=
  occasion.reports.flatMap PollReport.tidings ++
    if (loop.next occasion).asked then occasion.arriving.tidings else []

def history (loop : EventLoop C) : List (Occasion C) → List Tiding
  | [] => []
  | occasion :: later => loop.tidings occasion ++ (loop.next occasion).loop.history later

theorem history_append (loop : EventLoop C) (earlier later : List (Occasion C)) :
    loop.history (earlier ++ later) = loop.history earlier ++ (loop.after earlier).history later := by
  induction earlier generalizing loop with
  | nil => rfl
  | cons occasion earlier ih =>
    rw [List.cons_append, history, history, ih, List.append_assoc]
    rfl

theorem listenerReady_after (occasions : List (Occasion C)) :
    ((start : EventLoop C).after occasions).listenerReady = true ↔
      Outstanding ((start : EventLoop C).history occasions) := by
  induction occasions using List.reverseRecOn with
  | nil => simp [after, start, history, not_outstanding_nil]
  | append_singleton earlier occasion ih =>
    have regulated := (regulated_start (C := C)).after earlier
    have seen := listenerReady_recorded ih occasion.reports
    have admitted := listenerReady_admission (regulated.recorded occasion.reports).1 seen occasion.arriving
    rw [after_append, history_append]
    rw [List.append_assoc] at admitted
    have all : ((start : EventLoop C).after earlier).history [occasion] =
        ((start : EventLoop C).after earlier).tidings occasion := List.append_nil _
    rw [all]
    exact admitted

theorem Regulated.next_of_full {loop : EventLoop C} (regulated : loop.Regulated)
    (full : loop.registry.size = maxConnections - 1) (occasion : Occasion C) :
    (loop.next occasion).loop.listenerReady = (loop.recorded occasion.reports).listenerReady ∧
      (loop.next occasion).loop.registry.size + (loop.next occasion).ended.length =
        maxConnections - 1 := by
  obtain ⟨recorded, size⟩ := regulated.recorded occasion.reports
  have admitted := admission_of_closed (regulated.closed_of_full full occasion.reports) occasion.arriving
  have balance := (Registry.Regulated.serveBelow recorded (loop.recorded occasion.reports).scratch
    farewell (loop.recorded occasion.reports).registry.limit).2
  refine ⟨congrArg (fun acceptance : Acceptance C => acceptance.loop.listenerReady) admitted, ?_⟩
  rw [next_eq]
  simp only [regulated.service_of_full full]
  exact balance.trans (size.trans full)

theorem Regulated.after_of_full {loop : EventLoop C} (regulated : loop.Regulated)
    (full : loop.registry.size = maxConnections - 1) {occasions : List (Occasion C)}
    (none : ∀ round ∈ loop.run occasions, round.ended = []) :
    (loop.after occasions).registry.size = maxConnections - 1 ∧
      (loop.listenerReady = true → (loop.after occasions).listenerReady = true) := by
  induction occasions generalizing loop with
  | nil => exact ⟨full, id⟩
  | cons occasion later ih =>
    obtain ⟨ready, balance⟩ := regulated.next_of_full full occasion
    have kept : (loop.next occasion).ended = [] := none _ List.mem_cons_self
    rw [kept, List.length_nil, Nat.add_zero] at balance
    obtain ⟨size, still⟩ := ih (regulated.next occasion) balance
      fun round member => none round (List.mem_cons_of_mem _ member)
    refine ⟨size, fun before => still ?_⟩
    rw [ready]
    exact listenerReady_of_ready before occasion.reports

theorem Regulated.wants_once_free {loop : EventLoop C} (regulated : loop.Regulated)
    {seen : List PollReport} {first freeing : Occasion C} {later waiting : List (Occasion C)}
    (rounds : waiting ++ [freeing] = first :: later) (part : seen <+: first.reports)
    (ready : (loop.recorded seen).listenerReady = true)
    (full : (loop.recorded seen).registry.size = maxConnections - 1)
    (none : ∀ round ∈ loop.run waiting, round.ended = [])
    (some : ((loop.after waiting).next freeing).ended ≠ []) :
    (loop.after (waiting ++ [freeing])).wantsClient = true := by
  rw [(regulated.recorded seen).2] at full
  have announced : (loop.recorded first.reports).listenerReady = true := by
    obtain ⟨rest, split⟩ := part
    rw [← split, recorded_append]
    exact listenerReady_of_ready ready rest
  have before := regulated.after waiting
  have crowded : (loop.after waiting).registry.size = maxConnections - 1 :=
    (regulated.after_of_full full none).1
  -- The announcement is in the round that frees a slot, or it has come through all rounds before it.
  have standing : ((loop.after waiting).recorded freeing.reports).listenerReady = true := by
    cases waiting with
    | nil =>
      obtain ⟨rfl, -⟩ := List.cons.inj rounds
      exact announced
    | cons occasion rest =>
      obtain ⟨rfl, -⟩ := List.cons.inj rounds
      obtain ⟨same, balance⟩ := regulated.next_of_full full occasion
      rw [none _ List.mem_cons_self, List.length_nil, Nat.add_zero] at balance
      have still := (Regulated.after_of_full (regulated.next occasion) balance
        fun round member => none round (List.mem_cons_of_mem _ member)).2
      exact listenerReady_of_ready (still (same.trans announced)) freeing.reports
  obtain ⟨same, balance⟩ := before.next_of_full crowded freeing
  have gone := List.length_pos_of_ne_nil some
  rw [after_append]
  exact (before.next freeing).wantsClient_iff.mpr ⟨same.trans standing, by omega⟩

structure Attentive (history : List Tiding) (loop : EventLoop C) : Prop where
  ready_iff : ∀ seen, (loop.recorded seen).listenerReady = true ↔
    Outstanding (history ++ seen.flatMap PollReport.tidings)
  asked_iff : ∀ occasion, (loop.next occasion).asked = true ↔
    (loop.recorded occasion.reports).listenerReady = true ∧
      (loop.recorded occasion.reports).registry.size < maxConnections - 1
  never_waits_iff : ∀ occasion, (loop.next occasion).wait = .never ↔
    loop.listenerReady = true ∧ loop.registry.size < maxConnections - 1 ∨
      ∃ key slot, loop.registry.get? key = some slot ∧ slot.connection.isActionable slot.ready = true
  asks_once_free : ∀ seen first later waiting freeing, waiting ++ [freeing] = first :: later →
    seen <+: first.reports → (loop.recorded seen).listenerReady = true →
    (loop.recorded seen).registry.size = maxConnections - 1 →
    (∀ round ∈ loop.run waiting, round.ended = []) → ((loop.after waiting).next freeing).ended ≠ [] →
    ∀ occasion, ((loop.after (waiting ++ [freeing])).next occasion).wait = .never ∧
      ((loop.after (waiting ++ [freeing])).next occasion).asked = true

theorem waiting_client_not_forgotten (occasions : List (Occasion C)) :
    Attentive ((start : EventLoop C).history occasions) (start.after occasions) := by
  have regulated := (regulated_start (C := C)).after occasions
  constructor
  · exact listenerReady_recorded (listenerReady_after occasions)
  · intro occasion
    exact (regulated.recorded occasion.reports).1.wantsClient_iff
  · intro occasion
    exact wait_eq_never.trans regulated.hasPending_iff
  · intro seen first later waiting freeing rounds part ready full none some occasion
    have wants := regulated.wants_once_free rounds part ready full none some
    have next := regulated.after (waiting ++ [freeing])
    obtain ⟨standing, room⟩ := next.wantsClient_iff.mp wants
    obtain ⟨recorded, size⟩ := next.recorded occasion.reports
    refine ⟨wait_eq_never.mpr (next.hasPending_iff.mpr (.inl ⟨standing, room⟩)), ?_⟩
    exact recorded.wantsClient_iff.mpr
      ⟨listenerReady_of_ready standing occasion.reports, size.symm ▸ room⟩

-- Every slot is taken when one more client waits; a round later the first of the others hangs up.
theorem waiting_client_not_forgotten_until_hangup :
    let quiet : List Scripted := List.replicate (maxConnections - 1) {}
    let loop := (start : EventLoop Scripted).after (quiet.map (greeting ⟨.loopback, 4433⟩))
    let waiting : Occasion Scripted := ⟨[announcement], .nobody⟩
    let freeing : Occasion Scripted := ⟨[{ token := 0, failed := true }], .nobody⟩
    loop.registry.size = maxConnections - 1 ∧ (loop.next waiting).asked = false ∧
      (∀ round ∈ loop.run [waiting], round.ended = []) ∧
      ((loop.after [waiting]).next freeing).ended ≠ [] ∧
      ∀ occasion, ((loop.after [waiting, freeing]).next occasion).wait = .never ∧
        ((loop.after [waiting, freeing]).next occasion).asked = true := by
  intro quiet loop waiting freeing
  have length : quiet.length = maxConnections - 1 := List.length_replicate
  have crowded : Crowded (maxConnections - 1) loop := by
    have greeted := crowded_after_greetings ⟨.loopback, 4433⟩ quiet (Nat.le_of_eq length)
    rwa [length] at greeted
  have attentive : Attentive (start.history (quiet.map (greeting ⟨.loopback, 4433⟩))) loop :=
    waiting_client_not_forgotten _
  -- How the loop came to be full has no part in what follows.
  clear_value loop
  obtain ⟨kept, still⟩ := crowded.waited .nobody
  have full := (crowded.regulated.recorded [announcement]).2.trans crowded.size_eq
  have none : ∀ round ∈ loop.run [waiting], round.ended = [] := by
    intro round member
    rw [List.mem_singleton.mp member]
    exact kept
  have some : ((loop.after [waiting]).next freeing).ended ≠ [] := still.hungUp (by decide) .nobody
  have asks := attentive.asks_once_free [announcement] waiting [freeing] [waiting] freeing rfl
    (List.prefix_refl _) (by simp [recorded, record, announcement]) full none some
  have asked : (loop.next waiting).asked = false :=
    crowded.regulated.closed_of_full crowded.size_eq [announcement]
  exact ⟨crowded.size_eq, asked, none, some, asks⟩

end EventLoop

end SecureEcho
