import SecureEcho.Channel
import SecureEcho.Proofs.Connection.Turn
import SecureEcho.Proofs.Ring.Contents

namespace SecureEcho

namespace Connection

variable {C : Type}

structure Echoing (connection : Connection (Recorded C)) : Prop where
  sound : connection.ring.Sound
  conserved :
    connection.channel.transmitted ++ connection.ring.contents = connection.channel.delivered

theorem echoing_new (channel : C) (serial capacity : Nat) :
    (new ({ channel, serial } : Recorded C) capacity).Echoing where
  sound := Ring.sound_ofCapacity capacity
  conserved := Ring.contents_ofCapacity capacity

theorem Echoing.unmoved {connection : Connection (Recorded C)} (echoing : connection.Echoing)
    {ring : Ring} (sound : ring.Sound) (contents : ring.contents = connection.ring.contents)
    {channel : C} {call : Call} (brought : call.delivered = []) (sent : call.transmitted = [])
    (phase : Phase) (interest : Readiness) :
    (⟨phase, ring, interest, connection.channel.after channel call⟩ : Connection _).Echoing where
  sound := sound
  conserved := by simpa [brought, sent, contents] using echoing.conserved

theorem Echoing.received {connection : Connection (Recorded C)} (echoing : connection.Echoing)
    {brought : Bytes} {stored : Nat} {ring : Ring}
    (put : connection.ring.put brought = (stored, ring)) :
    ring.Sound ∧ connection.channel.transmitted ++ ring.contents =
      connection.channel.delivered ++ brought.take stored := by
  have sound := echoing.sound.put brought
  have contents := echoing.sound.contents_put brought
  rw [put] at sound contents
  refine ⟨sound, ?_⟩
  rw [contents, ← List.append_assoc, echoing.conserved]

theorem Echoing.peeked {connection : Connection (Recorded C)} (echoing : connection.Echoing)
    {scratch staged : Bytes} {count : Nat} {ring : Ring}
    (peek : connection.ring.peek scratch = (count, staged, ring)) :
    ring.Sound ∧ ring.contents = connection.ring.contents := by
  have sound := echoing.sound.peek scratch
  have contents := Ring.contents_peek connection.ring scratch
  rw [peek] at sound contents
  exact ⟨sound, contents⟩

theorem Echoing.sent {connection : Connection (Recorded C)} (echoing : connection.Echoing)
    (held : connection.ring.isEmpty = false) {scratch staged : Bytes} (room : scratch ≠ [])
    {count : Nat} {ring : Ring} (peek : connection.ring.peek scratch = (count, staged, ring))
    (taken : Nat) (channel : C) (phase : Phase) (interest : Readiness) :
    (⟨phase, (ring.consume taken).2, interest, connection.channel.after channel
      (.write (staged.take count) (.progressed taken))⟩ : Connection _).Echoing := by
  have handed := echoing.sound.count_pos held room
  have split := echoing.sound.take_append_contents_consume handed taken
  have sound := (echoing.sound.peek scratch).consume taken
  rw [peek] at split sound
  refine ⟨sound, ?_⟩
  have conserved := echoing.conserved
  rw [← split] at conserved
  simpa using conserved

variable [Channel C]

-- One notification. Only a store that was too small breaks the balance, and that is the end.
theorem Echoing.turned_or_overran {connection : Connection (Recorded C)} (echoing : connection.Echoing)
    {ready : Readiness} {scratch : Bytes} (room : scratch ≠ []) {turn : Turn (Recorded C)}
    (turned : Turned connection ready scratch turn) :
    turn.connection.Echoing ∨ (∃ count stored, Event.overrun count stored ∈ turn.events) ∧
      turn.verdict = .close ∧
      turn.connection.channel.transmitted ++ turn.connection.ring.contents <+:
        turn.connection.channel.delivered := by
  cases turned with
  | hungUp hangup => exact .inl echoing
  | idle alive unmet => exact .inl echoing
  | readBlocked roused reading answer =>
    obtain ⟨channel, inner, rfl⟩ := Recorded.of_read answer
    exact .inl (echoing.unmoved echoing.sound rfl rfl rfl _ _)
  | readFailed roused reading answer =>
    obtain ⟨channel, inner, rfl⟩ := Recorded.of_read answer
    exact .inl (echoing.unmoved echoing.sound rfl rfl rfl _ _)
  | readEnded roused reading answer =>
    obtain ⟨channel, inner, rfl⟩ := Recorded.of_read answer
    exact .inl (echoing.unmoved echoing.sound rfl (by simp) rfl _ _)
  | stored roused reading answer some put =>
    obtain ⟨channel, inner, rfl⟩ := Recorded.of_read answer
    obtain ⟨sound, conserved⟩ := echoing.received put
    rw [List.take_take, Nat.min_self] at conserved
    exact .inl ⟨sound, by simpa using conserved⟩
  | overrun roused reading answer some put short =>
    obtain ⟨channel, inner, rfl⟩ := Recorded.of_read answer
    obtain ⟨-, conserved⟩ := echoing.received put
    refine .inr ⟨⟨_, _, List.mem_cons_of_mem _ List.mem_cons_self⟩, rfl, ?_⟩
    simp only [Recorded.transmitted_after, Recorded.delivered_after, Call.transmitted_read,
      Call.delivered_read, List.append_nil, Transfer.moved_progressed]
    rw [conserved]
    exact (List.prefix_append_right_inj _).mpr (List.take_prefix _ _)
  | drained roused writing empty => exact .inl echoing
  | writeBlocked roused writing held peek answer =>
    obtain ⟨channel, inner, rfl⟩ := Recorded.of_write answer
    obtain ⟨sound, contents⟩ := echoing.peeked peek
    exact .inl (echoing.unmoved sound contents rfl rfl _ _)
  | writeFailed roused writing held peek answer =>
    obtain ⟨channel, inner, rfl⟩ := Recorded.of_write answer
    obtain ⟨sound, contents⟩ := echoing.peeked peek
    exact .inl (echoing.unmoved sound contents rfl rfl _ _)
  | sent roused writing held peek answer =>
    obtain ⟨channel, inner, rfl⟩ := Recorded.of_write answer
    exact .inl (echoing.sent held room peek _ _ _ _)
  | sentPart roused writing held peek answer part =>
    obtain ⟨channel, inner, rfl⟩ := Recorded.of_write answer
    exact .inl (echoing.sent held room peek _ _ _ _)

theorem Echoing.turned {connection : Connection (Recorded C)} (echoing : connection.Echoing)
    {ready : Readiness} {scratch : Bytes} (room : scratch ≠ []) {turn : Turn (Recorded C)}
    (turned : Turned connection ready scratch turn) :
    turn.connection.Echoing ∨ turn.verdict = .close ∧
      turn.connection.channel.transmitted ++ turn.connection.ring.contents <+:
        turn.connection.channel.delivered :=
  (echoing.turned_or_overran room turned).imp_right And.right

end Connection

namespace Slot

variable {C : Type} [Channel C]

def fresh (channel : C) (capacity : Nat) : Slot (Recorded C) :=
  ⟨.new { channel } capacity, .empty⟩

theorem Kept.echoing {channel : C} {capacity : Nat} {prompts : List Prompt} {slot : Slot (Recorded C)}
    (run : Kept (fresh channel capacity) prompts slot)
    (room : ∀ prompt ∈ prompts, prompt.scratch ≠ []) : slot.connection.Echoing := by
  refine run.invariant (fun slot => slot.connection.Echoing) ?_ ?_ room
  · exact Connection.echoing_new channel 0 capacity
  · intro slot prompt room echoing kept
    rcases echoing.turned room (Connection.turned_notify _ _ _) with still | ⟨verdict, -⟩
    · exact still
    · rw [turn, verdict] at kept
      cases kept

theorem sent_append_held_eq_received (channel : C) (capacity : Nat) {prompts : List Prompt}
    {slot : Slot (Recorded C)} (run : Kept (fresh channel capacity) prompts slot)
    (room : ∀ prompt ∈ prompts, prompt.scratch ≠ []) :
    slot.connection.channel.transmitted ++ slot.connection.ring.contents =
        slot.connection.channel.delivered ∧
      ∀ prompt : Prompt, prompt.scratch ≠ [] → (slot.turn prompt).verdict = .close →
        (slot.turn prompt).connection.channel.transmitted <+:
          (slot.turn prompt).connection.channel.delivered := by
  have echoing := run.echoing room
  refine ⟨echoing.conserved, ?_⟩
  intro prompt room _
  rcases echoing.turned room (Connection.turned_notify _ _ _) with still | ⟨-, short⟩
  · exact ⟨_, still.conserved⟩
  · exact (List.prefix_append _ _).trans short

-- Staging areas of three sizes, a write that reports too much, and bytes held across the wrap.
theorem sent_append_held_after_overreport :
    let channel : Scripted :=
      { arrivals := [.data [1, 2, 3], .data [4, 5]], uptakes := [.atMost 7, .blocked .read, .reports 9] }
    let both : Readiness := ⟨true, true, false⟩
    let prompts : List Prompt := [⟨both, [0, 0, 0]⟩, ⟨both, [0]⟩, ⟨both, [0]⟩, ⟨both, [0, 0]⟩, ⟨both, [0, 0]⟩]
    (∀ prompt ∈ prompts, prompt.scratch ≠ []) ∧
      ∃ slot, Kept (fresh channel 3) prompts slot ∧ slot.connection.channel.transmitted = [1, 2, 3] ∧
        slot.connection.channel.transmitted ++ slot.connection.ring.contents =
          slot.connection.channel.delivered := by
  intro channel both prompts
  have room : ∀ prompt ∈ prompts, prompt.scratch ≠ [] := by decide
  have ran : (prompts.foldlM keep? (fresh channel 3)).map (·.connection.channel.transmitted) =
      some [1, 2, 3] := by decide
  obtain ⟨slot, run, sent⟩ := Option.map_eq_some_iff.mp ran
  exact ⟨room, slot, kept_exact.mp run, sent,
    (sent_append_held_eq_received channel 3 (kept_exact.mp run) room).1⟩

end Slot

end SecureEcho
