import SecureEcho.Channel
import SecureEcho.Proofs.Connection.Echo
import SecureEcho.Proofs.Connection.Staging
import SecureEcho.Proofs.Connection.Supply

namespace SecureEcho

namespace Ring

theorem Sound.offer_eq {ring next : Ring} (sound : ring.Sound) {target staged : Bytes} {count : Nat}
    (peek : ring.peek target = (count, staged, next)) :
    staged.take count = ring.contents.take target.length := by
  have peeked := sound.of_peek peek
  rw [peeked.take_staged, peeked.count_eq, ← sound.length_contents]
  exact List.take_eq_take_min.symm

end Ring

namespace Connection

variable {C : Type}

structure Offers (offer : Bytes) (room : Nat) (connection : Connection C) : Prop where
  writing : connection.phase = .writing
  front : connection.ring.contents.take room = offer

theorem Offers.grown {connection : Connection C} {offer : Bytes} {room more : Nat}
    (offers : connection.Offers offer room) (growing : room ≤ more) :
    offer <+: connection.ring.contents.take more ∧
      (more = room → connection.ring.contents.take more = offer) := by
  obtain ⟨-, rfl⟩ := offers
  exact ⟨List.take_prefix_take_left growing, fun same => congrArg (connection.ring.contents.take ·) same⟩

variable [Channel C] {connection : Connection (Recorded C)} {ready : Readiness} {scratch : Bytes}
  {turn : Turn (Recorded C)}

theorem Turned.call_of_writing (sound : connection.ring.Sound) (writing : connection.phase = .writing)
    (turned : Turned connection ready scratch turn) {call : Call} {more : List Call}
    (calls : turn.connection.channel.calls = connection.channel.calls ++ call :: more) :
    ∃ outcome, call = .write (connection.ring.contents.take scratch.length) outcome := by
  cases turned with
  | hungUp | idle | drained => cases List.self_eq_append_right.mp calls
  | readBlocked roused reading | readFailed roused reading | readEnded roused reading
  | stored roused reading | overrun roused reading =>
    rw [writing] at reading
    cases reading
  | writeBlocked roused writing held peek answer | writeFailed roused writing held peek answer
  | sent roused writing held peek answer | sentPart roused writing held peek answer =>
    obtain ⟨channel, inner, rfl⟩ := Recorded.of_write answer
    obtain ⟨rfl, -⟩ := List.cons.inj (List.append_cancel_left calls)
    exact ⟨_, congrArg (Call.write · _) (sound.offer_eq peek)⟩

theorem Turned.offers_of_blocked (sound : connection.ring.Sound)
    (turned : Turned connection ready scratch turn) {offer : Bytes} {want : Direction}
    (calls : turn.connection.channel.calls =
      connection.channel.calls ++ [.write offer (.blocked want)]) :
    turn.connection.Offers offer scratch.length := by
  cases turned with
  | hungUp | idle | drained => cases List.self_eq_append_right.mp calls
  | readBlocked roused reading answer | readFailed roused reading answer
  | readEnded roused reading answer | stored roused reading answer
  | overrun roused reading answer =>
    obtain ⟨channel, inner, rfl⟩ := Recorded.of_read answer
    cases List.append_cancel_left calls
  | writeFailed roused writing held peek answer | sent roused writing held peek answer
  | sentPart roused writing held peek answer =>
    obtain ⟨channel, inner, rfl⟩ := Recorded.of_write answer
    cases List.append_cancel_left calls
  | @writeBlocked want count staged ring channel roused writing held peek answer =>
    obtain ⟨channel, inner, rfl⟩ := Recorded.of_write answer
    have same : staged.take count = offer := by
      have call := List.head_eq_of_cons_eq (List.append_cancel_left calls)
      cases call
      rfl
    have kept := Ring.contents_peek connection.ring scratch
    rw [peek] at kept
    refine ⟨writing, ?_⟩
    show ring.contents.take scratch.length = offer
    rw [← same, sound.offer_eq peek]
    exact congrArg _ kept

end Connection

namespace Slot

variable {C : Type} [Channel C]

theorem turned_turn (slot : Slot C) (prompt : Prompt) :
    slot.connection.Turned (slot.ready.union prompt.seen) prompt.scratch (slot.turn prompt) :=
  slot.connection.turned_notify _ _

theorem notified_append (slot : Slot C) (earlier later : List Prompt) :
    slot.notified (earlier ++ later) = (slot.notified earlier).notified later :=
  List.foldl_append

theorem sound_notified {slot : Slot C} (sound : slot.connection.ring.Sound) (prompts : List Prompt) :
    (slot.notified prompts).connection.ring.Sound := by
  have step : ∀ (slot : Slot C) (prompt : Prompt), True → slot.connection.ring.Sound →
      (slot.turn prompt).slot.connection.ring.Sound :=
    fun slot prompt _ sound => (slot.turned_turn prompt).sound sound
  exact notified_invariant (fun slot => slot.connection.ring.Sound) sound step fun _ _ => trivial

theorem calls_prefix_notified (slot : Slot (Recorded C)) (prompts : List Prompt) :
    slot.connection.channel.calls <+: (slot.notified prompts).connection.channel.calls := by
  induction prompts generalizing slot with
  | nil => exact List.prefix_refl _
  | cons prompt later ih =>
    obtain ⟨made, spent⟩ := (slot.turned_turn prompt).spent
    have first : slot.connection.channel.calls <+: (slot.turn prompt).slot.connection.channel.calls :=
      ⟨made, spent.calls.symm⟩
    exact first.trans (ih _)

theorem connection_notified_of_quiet {slot : Slot (Recorded C)} {prompts : List Prompt}
    (quiet : (slot.notified prompts).connection.channel.calls = slot.connection.channel.calls) :
    (slot.notified prompts).connection = slot.connection := by
  induction prompts generalizing slot with
  | nil => rfl
  | cons prompt later ih =>
    have after := calls_prefix_notified (slot.turn prompt).slot later
    rcases (slot.turned_turn prompt).quiet_or_called with same | ⟨call, -, -, calls, -⟩
    · have same : (slot.turn prompt).slot.connection = slot.connection := same
      exact (ih (quiet.trans (by rw [same]))).trans same
    · have calls : (slot.turn prompt).slot.connection.channel.calls = _ := calls
      have quiet : ((slot.turn prompt).slot.notified later).connection.channel.calls = _ := quiet
      have longer := after.length_le
      rw [quiet, calls, List.length_append, List.length_singleton] at longer
      omega

-- What a connection has to offer it offers at its next call, however late that is.
theorem next_call_of_offers {slot : Slot (Recorded C)} (sound : slot.connection.ring.Sound)
    {offer : Bytes} {room : Nat} (offers : slot.connection.Offers offer room) {between : List Prompt}
    (quiet : (slot.notified between).connection.channel.calls = slot.connection.channel.calls)
    {next : Prompt} (growing : room ≤ next.scratch.length) {call : Call} {more : List Call}
    (called : ((slot.notified between).turn next).connection.channel.calls =
      (slot.notified between).connection.channel.calls ++ call :: more) :
    ∃ again outcome, call = .write again outcome ∧ offer <+: again ∧
      (next.scratch.length = room → again = offer) := by
  have still := connection_notified_of_quiet quiet
  have waited := sound_notified sound between
  have turned := (slot.notified between).turned_turn next
  obtain ⟨outcome, call⟩ := turned.call_of_writing waited (still ▸ offers.writing) called
  rw [still] at call
  exact ⟨_, outcome, call, offers.grown growing⟩

def asked (channel : C) (capacity : Nat) (prompts : List Prompt) : List Call :=
  ((fresh channel capacity).notified prompts).connection.channel.calls

theorem blocked_write_is_next_offer (channel : C) (capacity : Nat) {earlier between : List Prompt}
    {first next : Prompt} (growing : first.scratch.length ≤ next.scratch.length) {offer : Bytes}
    {want : Direction}
    (blocked : asked channel capacity (earlier ++ [first]) =
      asked channel capacity earlier ++ [.write offer (.blocked want)])
    (quiet : asked channel capacity (earlier ++ [first] ++ between) =
      asked channel capacity (earlier ++ [first]))
    {call : Call} {more : List Call}
    (called : asked channel capacity (earlier ++ [first] ++ between ++ [next]) =
      asked channel capacity (earlier ++ [first] ++ between) ++ call :: more) :
    ∃ again outcome, call = .write again outcome ∧ offer <+: again ∧
      (next.scratch.length = first.scratch.length → again = offer) := by
  unfold asked at blocked quiet called
  simp only [notified_append] at blocked quiet called
  generalize started : (fresh channel capacity).notified earlier = slot at blocked quiet called
  have sound : slot.connection.ring.Sound :=
    started ▸ sound_notified (Ring.sound_ofCapacity capacity) earlier
  have turned := slot.turned_turn first
  exact next_call_of_offers (turned.sound sound) (turned.offers_of_blocked sound blocked) quiet growing
    called

-- One byte of three was confirmed before. The write that is held up waits for the socket to be read;
-- that it can be written changes nothing, and the next offer has room for one byte more.
theorem blocked_write_is_next_offer_after_short_write :
    let channel : Scripted :=
      { arrivals := [.data [1, 2, 3]], uptakes := [.atMost 1, .blocked .read] }
    let earlier : List Prompt := List.replicate 2 ⟨⟨true, true, false⟩, [0, 0, 0]⟩
    let first : Prompt := ⟨.empty, [0]⟩
    let between : List Prompt := [⟨.ofDirection .write, [0]⟩, ⟨.empty, [0, 0]⟩]
    let next : Prompt := ⟨.ofDirection .read, [0, 0]⟩
    first.scratch.length ≤ next.scratch.length ∧
      asked channel 3 (earlier ++ [first]) =
        asked channel 3 earlier ++ [.write [2] (.blocked .read)] ∧
      asked channel 3 (earlier ++ [first] ++ between) = asked channel 3 (earlier ++ [first]) ∧
      ∃ call, asked channel 3 (earlier ++ [first] ++ between ++ [next]) =
          asked channel 3 (earlier ++ [first] ++ between) ++ [call] ∧
        ∃ again outcome, call = .write again outcome ∧ [2] <+: again := by
  intro channel earlier first between next
  have growing : first.scratch.length ≤ next.scratch.length := by decide
  have blocked : asked channel 3 (earlier ++ [first]) =
      asked channel 3 earlier ++ [.write [2] (.blocked .read)] := by decide +kernel
  have quiet : asked channel 3 (earlier ++ [first] ++ between) = asked channel 3 (earlier ++ [first]) := by
    decide +kernel
  have called : asked channel 3 (earlier ++ [first] ++ between ++ [next]) =
      asked channel 3 (earlier ++ [first] ++ between) ++ [.write [2, 3] (.progressed 2)] := by
    decide +kernel
  obtain ⟨again, outcome, call, prefixed, -⟩ :=
    blocked_write_is_next_offer channel 3 growing blocked quiet called
  exact ⟨growing, blocked, quiet, _, called, again, outcome, call, prefixed⟩

end Slot

end SecureEcho
