import SecureEcho.Proofs.Ring.Queue

namespace SecureEcho

namespace Ring

variable {ring : Ring}

theorem Sound.after_puts (sound : ring.Sound) (sources : List Bytes) :
    (ring.after (sources.map .put)).peeked = ring.peeked ∧
      ring.contents <+: (ring.after (sources.map .put)).contents := by
  induction sources generalizing ring with
  | nil => exact ⟨rfl, List.prefix_refl _⟩
  | cons source later ih =>
    obtain ⟨marked, kept⟩ := ih (sound.put source)
    refine ⟨marked.trans (sound.peeked_put source), ?_⟩
    have added : ring.contents <+: (ring.put source).2.contents := by
      rw [sound.contents_put source]
      exact List.prefix_append _ _
    exact added.trans kept

-- A peek hands nothing out if it has no room, or if nothing is held, and then nothing is marked either.
theorem Sound.peeked_eq_handed_iff (sound : ring.Sound) (target : Bytes) :
    (ring.peek target).2.2.peeked = (ring.peek target).1 ↔ (target = [] → ring.peeked = 0) := by
  have marked := sound.peeked_le
  rw [sound.peeked_peek, peek_count]
  cases target with
  | nil => simp
  | cons first rest =>
    simp only [List.length_cons, reduceCtorEq, false_implies, iff_true]
    split <;> omega

theorem Sound.consume_after_puts (sound : ring.Sound) (sources : List Bytes) (count : Nat) :
    ((ring.after (sources.map .put)).consume count).1 = min count ring.peeked ∧
      ring.contents.take (min count ring.peeked) ++
          ((ring.after (sources.map .put)).consume count).2.contents =
        (ring.after (sources.map .put)).contents := by
  obtain ⟨marked, added, grown⟩ := sound.after_puts sources
  have inside := sound.peeked_le
  have dropped : ((ring.after (sources.map .put)).consume count).1 = min count ring.peeked := by
    rw [← marked]
    rfl
  have front : (ring.after (sources.map .put)).contents.take (min count ring.peeked) =
      ring.contents.take (min count ring.peeked) := by
    rw [← grown]
    refine List.take_append_of_le_length ?_
    rw [sound.length_contents]
    omega
  refine ⟨dropped, ?_⟩
  rw [(sound.after _).contents_consume, marked, ← front, List.take_append_drop]

-- Whatever was done to a store before: a peek marks as much as it hands out, unless it has no room and
-- finds bytes marked. Where it does, any puts that come next make no difference, and what is then given
-- up are the bytes that it handed out, the first of them first.
theorem releases_what_was_handed_out_last (capacity : Nat) (uses : List RingUse) {target staged : Bytes}
    {handed : Nat} {next : Ring}
    (peek : ((ofCapacity capacity).after uses).peek target = (handed, staged, next)) :
    (next.peeked = handed ↔ (target = [] → ((ofCapacity capacity).after uses).peeked = 0)) ∧
      (next.peeked = handed → ∀ (sources : List Bytes) (count : Nat),
        let grown := next.after (sources.map .put)
        (grown.consume count).1 = min count handed ∧
          staged.take (min count handed) ++ (grown.consume count).2.contents = grown.contents) := by
  have sound := (sound_ofCapacity capacity).after uses
  have peeked := sound.of_peek peek
  have marks := sound.peeked_eq_handed_iff target
  have kept := contents_peek ((ofCapacity capacity).after uses) target
  rw [peek] at marks kept
  refine ⟨marks, ?_⟩
  intro agrees sources count
  obtain ⟨dropped, left⟩ := peeked.sound.consume_after_puts sources count
  have shown : staged.take (min count handed) = next.contents.take (min count handed) := by
    have whole := congrArg (List.take count) (peeked.take_staged.trans (congrArg _ kept.symm))
    rwa [List.take_take, List.take_take] at whole
  rw [agrees] at dropped left
  rw [shown]
  exact ⟨dropped, left⟩

-- The cursors go round the end, and an earlier peek has left a byte marked; what is given up is what
-- the last peek handed out, although more was asked for and one more byte was put in.
theorem releases_what_was_handed_out_last_round_the_end :
    let ring := (ofCapacity 3).after [.put [1, 2, 3], .peek [0, 0, 0], .consume 2, .put [4]]
    let next : Ring := { ring with peekAt := 0 }
    let grown := next.after [.put [5]]
    ring.peeked = 1 ∧ ring.peek [0, 0] = (2, [3, 4], next) ∧ next.peeked = 2 ∧
      (grown.consume 3).1 = 2 ∧ [3, 4] ++ (grown.consume 3).2.contents = grown.contents := by
  intro ring next grown
  have peek : ring.peek [0, 0] = (2, [3, 4], next) := by decide
  obtain ⟨marks, gives⟩ := releases_what_was_handed_out_last 3 _ peek
  have marked := marks.mpr fun roomless => by cases roomless
  exact ⟨by decide, peek, marked, gives marked [[5]] 3⟩

-- Two bytes are marked when a peek without room hands out none, and one of them is given up after it.
theorem releases_byte_that_last_peek_withheld :
    let ring := (ofCapacity 4).after [.put [1, 2], .peek [0, 0]]
    ring.peek [] = (0, [], ring) ∧ ring.peeked ≠ 0 ∧ (ring.consume 1).1 ≠ min 1 0 := by
  decide

end Ring

end SecureEcho
