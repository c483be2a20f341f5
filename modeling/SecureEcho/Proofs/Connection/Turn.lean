import Mathlib.Data.List.Induction
import SecureEcho.Proofs.Channel.Record
import SecureEcho.Registry

namespace SecureEcho

def Event.ofConnection : Event → Bool
  | .hangup .. | .stored .. | .overrun .. | .readFailed .. | .offered .. | .consumed .. => true
  | .writeFailed .. | .closeRetried .. => true
  | _ => false

theorem Event.filter_eq_nil_of_told {events : List Event} {kind : Event → Bool}
    (told : ∀ event ∈ events, event.ofConnection = true)
    (apart : ∀ event, event.ofConnection = true → kind event = false) : events.filter kind = [] := by
  refine List.filter_eq_nil_iff.mpr fun event member => ?_
  rw [apart event (told event member)]
  exact Bool.false_ne_true

def Connection.bare {C : Type} (connection : Connection (Recorded C)) : Connection C :=
  ⟨connection.phase, connection.ring, connection.interest, connection.channel.channel⟩

def Turn.bare {C : Type} (turn : Turn (Recorded C)) : Turn C :=
  ⟨turn.verdict, turn.connection.bare, turn.ready, turn.scratch, turn.events⟩

namespace Connection

variable {C : Type} [Channel C]

-- The notification reaches the channel: it is no hangup, and the connection waits for it.
structure Roused (connection : Connection C) (ready : Readiness) : Prop where
  alive : ready.hangup = false
  met : ready.meets connection.interest = true

inductive Turned (connection : Connection C) (ready : Readiness) (scratch : Bytes) : Turn C → Prop where
  | hungUp (hangup : ready.hangup = true) :
      Turned connection ready scratch
        ⟨.close, connection, ready, scratch, [.hangup connection.buffered]⟩
  | idle (alive : ready.hangup = false) (unmet : ready.meets connection.interest = false) :
      Turned connection ready scratch ⟨.keep, connection, ready, scratch, []⟩
  | readBlocked {want : Direction} {filled : Bytes} {channel : C}
      (roused : connection.Roused ready) (reading : connection.phase = .reading)
      (answer : Channel.read connection.channel scratch = (.blocked want, filled, channel)) :
      Turned connection ready scratch
        ({ connection with channel }.holdUp want ready filled [])
  | readFailed {why : IoError} {filled : Bytes} {channel : C}
      (roused : connection.Roused ready) (reading : connection.phase = .reading)
      (answer : Channel.read connection.channel scratch = (.failed why, filled, channel)) :
      Turned connection ready scratch
        ⟨.close, { connection with channel }, ready, filled, [.readFailed why]⟩
  | readEnded {filled : Bytes} {channel : C}
      (roused : connection.Roused ready) (reading : connection.phase = .reading)
      (answer : Channel.read connection.channel scratch = (.progressed 0, filled, channel)) :
      Turned connection ready scratch ⟨.close, { connection with channel }, ready, filled, []⟩
  | stored {count : Nat} {filled : Bytes} {ring : Ring} {channel : C}
      (roused : connection.Roused ready) (reading : connection.phase = .reading)
      (answer : Channel.read connection.channel scratch = (.progressed count, filled, channel))
      (some : count ≠ 0) (put : connection.ring.put (filled.take count) = (count, ring)) :
      Turned connection ready scratch
        ⟨.keep, ⟨.writing, ring, .waitingFor .write, channel⟩, ready, filled, [.stored count]⟩
  | overrun {count stored : Nat} {filled : Bytes} {ring : Ring} {channel : C}
      (roused : connection.Roused ready) (reading : connection.phase = .reading)
      (answer : Channel.read connection.channel scratch = (.progressed count, filled, channel))
      (some : count ≠ 0) (put : connection.ring.put (filled.take count) = (stored, ring))
      (short : stored ≠ count) :
      Turned connection ready scratch
        ⟨.close, { connection with ring, channel }, ready, filled,
          [.stored stored, .overrun count stored]⟩
  | drained (roused : connection.Roused ready) (writing : connection.phase = .writing)
      (empty : connection.ring.isEmpty = true) :
      Turned connection ready scratch
        ⟨.keep, connection, ready.without (.ofDirection .write), scratch, []⟩
  | writeBlocked {want : Direction} {count : Nat} {staged : Bytes} {ring : Ring} {channel : C}
      (roused : connection.Roused ready) (writing : connection.phase = .writing)
      (held : connection.ring.isEmpty = false)
      (peek : connection.ring.peek scratch = (count, staged, ring))
      (answer : Channel.write connection.channel (staged.take count) = (.blocked want, channel)) :
      Turned connection ready scratch
        ({ connection with ring, channel }.holdUp want ready staged [.offered count])
  | writeFailed {why : IoError} {count : Nat} {staged : Bytes} {ring : Ring} {channel : C}
      (roused : connection.Roused ready) (writing : connection.phase = .writing)
      (held : connection.ring.isEmpty = false)
      (peek : connection.ring.peek scratch = (count, staged, ring))
      (answer : Channel.write connection.channel (staged.take count) = (.failed why, channel)) :
      Turned connection ready scratch
        ⟨.close, { connection with ring, channel }, ready, staged, [.offered count, .writeFailed why]⟩
  | sent {count : Nat} {staged : Bytes} {ring : Ring} {channel : C}
      (roused : connection.Roused ready) (writing : connection.phase = .writing)
      (held : connection.ring.isEmpty = false)
      (peek : connection.ring.peek scratch = (count, staged, ring))
      (answer : Channel.write connection.channel (staged.take count) = (.progressed count, channel)) :
      Turned connection ready scratch
        ⟨.keep, ⟨.reading, (ring.consume count).2, .waitingFor .read, channel⟩, ready, staged,
          [.offered count, .consumed (ring.consume count).1]⟩
  | sentPart {count taken : Nat} {staged : Bytes} {ring : Ring} {channel : C}
      (roused : connection.Roused ready) (writing : connection.phase = .writing)
      (held : connection.ring.isEmpty = false)
      (peek : connection.ring.peek scratch = (count, staged, ring))
      (answer : Channel.write connection.channel (staged.take count) = (.progressed taken, channel))
      (part : taken ≠ count) :
      Turned connection ready scratch
        ⟨.keep, { connection with ring := (ring.consume taken).2, channel }, ready, staged,
          [.offered count, .consumed (ring.consume taken).1]⟩

theorem turned_readTurn {connection : Connection C} {ready : Readiness}
    (roused : connection.Roused ready) (reading : connection.phase = .reading) (scratch : Bytes) :
    Turned connection ready scratch (connection.readTurn ready scratch) := by
  unfold readTurn
  rcases answer : Channel.read connection.channel scratch with ⟨outcome, filled, channel⟩
  cases outcome with
  | blocked want => exact .readBlocked roused reading answer
  | failed why => exact .readFailed roused reading answer
  | progressed count =>
    cases count with
    | zero => exact .readEnded roused reading answer
    | succ count =>
      rcases put : connection.ring.put (filled.take (count + 1)) with ⟨stored, ring⟩
      simp only [put]
      split
      · rename_i all
        subst all
        exact .stored roused reading answer (Nat.succ_ne_zero _) put
      · exact .overrun roused reading answer (Nat.succ_ne_zero _) put ‹_›

theorem turned_writeTurn {connection : Connection C} {ready : Readiness}
    (roused : connection.Roused ready) (writing : connection.phase = .writing) (scratch : Bytes) :
    Turned connection ready scratch (connection.writeTurn ready scratch) := by
  unfold writeTurn
  split
  · exact .drained roused writing ‹_›
  · rename_i held
    replace held : connection.ring.isEmpty = false := eq_false_of_ne_true held
    rcases peek : connection.ring.peek scratch with ⟨count, staged, ring⟩
    rcases answer : Channel.write connection.channel (staged.take count) with ⟨outcome, channel⟩
    simp only [answer]
    cases outcome with
    | blocked want => exact .writeBlocked roused writing held peek answer
    | failed why => exact .writeFailed roused writing held peek answer
    | progressed taken =>
      dsimp only
      split
      · rename_i all
        subst all
        exact .sent roused writing held peek answer
      · exact .sentPart roused writing held peek answer ‹_›

theorem turned_notify (connection : Connection C) (ready : Readiness) (scratch : Bytes) :
    Turned connection ready scratch (connection.notify ready scratch) := by
  unfold notify
  split
  · exact .hungUp ‹_›
  · rename_i alive
    replace alive : ready.hangup = false := eq_false_of_ne_true alive
    split
    · rename_i met
      split
      · exact turned_readTurn ⟨alive, met⟩ ‹_› scratch
      · exact turned_writeTurn ⟨alive, met⟩ ‹_› scratch
    · exact .idle alive (eq_false_of_ne_true ‹_›)

theorem notify_eq_of_turned {connection : Connection C} {ready : Readiness} {scratch : Bytes}
    {turn : Turn C} (turned : Turned connection ready scratch turn) :
    connection.notify ready scratch = turn := by
  cases turned with
  | hungUp hangup => simp [notify, hangup]
  | idle alive unmet => simp [notify, alive, unmet]
  | readBlocked roused reading answer | readFailed roused reading answer
  | readEnded roused reading answer =>
    simp [notify, roused.alive, roused.met, reading, readTurn, answer]
  | stored roused reading answer some put =>
    simp [notify, roused.alive, roused.met, reading, readTurn, answer, put]
  | overrun roused reading answer some put short =>
    simp [notify, roused.alive, roused.met, reading, readTurn, answer, put, short]
  | drained roused writing empty => simp [notify, roused.alive, roused.met, writing, writeTurn, empty]
  | writeBlocked roused writing held peek answer | writeFailed roused writing held peek answer
  | sent roused writing held peek answer =>
    simp [notify, roused.alive, roused.met, writing, writeTurn, held, peek, answer]
  | sentPart roused writing held peek answer part =>
    simp [notify, roused.alive, roused.met, writing, writeTurn, held, peek, answer, part]

theorem notify_exact {connection : Connection C} {ready : Readiness} {scratch : Bytes}
    {turn : Turn C} :
    connection.notify ready scratch = turn ↔ Turned connection ready scratch turn :=
  ⟨fun same => same ▸ turned_notify connection ready scratch, notify_eq_of_turned⟩

theorem Turned.told {connection : Connection C} {ready : Readiness} {scratch : Bytes}
    {turn : Turn C} (turned : Turned connection ready scratch turn) :
    ∀ event ∈ turn.events, event.ofConnection = true := by
  cases turned <;> simp [holdUp, Event.ofConnection]

theorem told_closeWithin (channel : C) (left attempts : Nat) :
    ∀ event ∈ (closeWithin channel left attempts).1, event.ofConnection = true := by
  induction left generalizing channel attempts with
  | zero => simp [closeWithin]
  | succ left ih =>
    unfold closeWithin
    split
    · simp
    · simpa [Event.ofConnection] using ih _ (attempts + 1)

theorem Turned.readiness {connection : Connection C} {ready : Readiness} {scratch : Bytes}
    {turn : Turn C} (turned : Turned connection ready scratch turn) :
    (∀ direction, turn.ready.allows direction = true → ready.allows direction = true) ∧
      (turn.ready.hangup = true → ready.hangup = true) := by
  have spared : ∀ want : Direction,
      (∀ direction, (ready.without (.ofDirection want)).allows direction = true →
        ready.allows direction = true) ∧
      ((ready.without (.ofDirection want)).hangup = true → ready.hangup = true) := by
    intro want
    refine ⟨fun direction there => ?_, fun there => ?_⟩
    · rw [Readiness.allows_without, Bool.and_eq_true] at there
      exact there.1
    · rw [Readiness.hangup_without, Bool.and_eq_true] at there
      exact there.1
  cases turned with
  | readBlocked | writeBlocked => exact spared _
  | drained => exact spared _
  | hungUp | idle | readFailed | readEnded | stored | overrun | writeFailed | sent | sentPart =>
    exact ⟨fun _ => id, id⟩

theorem turned_bare {connection : Connection (Recorded C)} {ready : Readiness} {scratch : Bytes}
    {turn : Turn (Recorded C)} (turned : Turned connection ready scratch turn) :
    Turned connection.bare ready scratch turn.bare := by
  have rouse : connection.Roused ready → connection.bare.Roused ready := fun roused => ⟨roused.1, roused.2⟩
  cases turned with
  | hungUp hangup => exact .hungUp hangup
  | idle alive unmet => exact .idle alive unmet
  | readBlocked roused reading answer =>
    obtain ⟨channel, inner, rfl⟩ := Recorded.of_read answer
    exact .readBlocked (rouse roused) reading inner
  | readFailed roused reading answer =>
    obtain ⟨channel, inner, rfl⟩ := Recorded.of_read answer
    exact .readFailed (rouse roused) reading inner
  | readEnded roused reading answer =>
    obtain ⟨channel, inner, rfl⟩ := Recorded.of_read answer
    exact .readEnded (rouse roused) reading inner
  | stored roused reading answer some put =>
    obtain ⟨channel, inner, rfl⟩ := Recorded.of_read answer
    exact .stored (rouse roused) reading inner some put
  | overrun roused reading answer some put short =>
    obtain ⟨channel, inner, rfl⟩ := Recorded.of_read answer
    exact .overrun (rouse roused) reading inner some put short
  | drained roused writing empty => exact .drained (rouse roused) writing empty
  | writeBlocked roused writing held peek answer =>
    obtain ⟨channel, inner, rfl⟩ := Recorded.of_write answer
    exact .writeBlocked (rouse roused) writing held peek inner
  | writeFailed roused writing held peek answer =>
    obtain ⟨channel, inner, rfl⟩ := Recorded.of_write answer
    exact .writeFailed (rouse roused) writing held peek inner
  | sent roused writing held peek answer =>
    obtain ⟨channel, inner, rfl⟩ := Recorded.of_write answer
    exact .sent (rouse roused) writing held peek inner
  | sentPart roused writing held peek answer part =>
    obtain ⟨channel, inner, rfl⟩ := Recorded.of_write answer
    exact .sentPart (rouse roused) writing held peek inner part

theorem bare_notify (connection : Connection (Recorded C)) (ready : Readiness) (scratch : Bytes) :
    connection.bare.notify ready scratch = (connection.notify ready scratch).bare :=
  notify_exact.mpr (turned_bare (turned_notify connection ready scratch))

end Connection

-- What comes before a notification: what was reported since the last one, and a staging area.
structure Prompt where
  seen : Readiness
  scratch : Bytes
deriving DecidableEq, Repr

def Turn.slot {C : Type} (turn : Turn C) : Slot C := ⟨turn.connection, turn.ready⟩

namespace Slot

variable {C : Type} [Channel C]

def turn (slot : Slot C) (prompt : Prompt) : Turn C :=
  slot.connection.notify (slot.ready.union prompt.seen) prompt.scratch

-- A run of notifications, none of which has ended the connection.
inductive Kept (start : Slot C) : List Prompt → Slot C → Prop where
  | nil : Kept start [] start
  | snoc {earlier : List Prompt} {slot : Slot C} {prompt : Prompt} (run : Kept start earlier slot)
      (kept : (slot.turn prompt).verdict = .keep) :
      Kept start (earlier ++ [prompt]) (slot.turn prompt).slot

def keep? (slot : Slot C) (prompt : Prompt) : Option (Slot C) :=
  if (slot.turn prompt).verdict = .keep then some (slot.turn prompt).slot else none

theorem kept_exact {start slot : Slot C} {prompts : List Prompt} :
    prompts.foldlM keep? start = some slot ↔ Kept start prompts slot := by
  constructor
  · intro ran
    induction prompts using List.reverseRecOn generalizing slot with
    | nil =>
      cases ran
      exact .nil
    | append_singleton earlier prompt ih =>
      rw [List.foldlM_append] at ran
      obtain ⟨before, first, last⟩ := Option.bind_eq_some_iff.mp ran
      have last : before.keep? prompt = some slot := by simpa using last
      unfold keep? at last
      split at last
      · cases last
        exact .snoc (ih first) ‹_›
      · cases last
  · intro run
    induction run with
    | nil => rfl
    | snoc run kept ih => simp [List.foldlM_append, ih, keep?, kept]

theorem Kept.invariant {start slot : Slot C} {prompts : List Prompt} {Suits : Prompt → Prop}
    (Invariant : Slot C → Prop) (initially : Invariant start)
    (step : ∀ slot prompt, Suits prompt → Invariant slot → (slot.turn prompt).verdict = .keep →
      Invariant (slot.turn prompt).slot)
    (run : Kept start prompts slot) (suit : ∀ prompt ∈ prompts, Suits prompt) : Invariant slot := by
  induction run with
  | nil => exact initially
  | snoc run kept ih =>
    have before := ih fun prompt member => suit prompt (List.mem_append_left _ member)
    exact step _ _ (suit _ (by simp)) before kept

def notified (start : Slot C) (prompts : List Prompt) : Slot C :=
  prompts.foldl (fun slot prompt => (slot.turn prompt).slot) start

theorem notified_invariant {start : Slot C} {prompts : List Prompt} {Suits : Prompt → Prop}
    (Invariant : Slot C → Prop) (initially : Invariant start)
    (step : ∀ slot prompt, Suits prompt → Invariant slot → Invariant (slot.turn prompt).slot)
    (suit : ∀ prompt ∈ prompts, Suits prompt) : Invariant (start.notified prompts) := by
  induction prompts generalizing start with
  | nil => exact initially
  | cons prompt later ih =>
    have next := step start prompt (suit prompt List.mem_cons_self) initially
    exact ih next fun other member => suit other (List.mem_cons_of_mem _ member)

end Slot

end SecureEcho
