import SecureEcho.Proofs.Ring.Queue

namespace SecureEcho

inductive Hazard where
  | storageTooLarge
  | sumTooLarge
  | differenceBelowZero
  | divisorZero
  | rangeOutside
  | lengthsDiffer
deriving DecidableEq, Repr

def wordLimit : Nat := Nat.pow 2 64
def storageLimit : Nat := Nat.pow 2 63 - 1

structure Span where
  start : Nat
  stop : Nat
deriving DecidableEq, Repr

namespace Span

def size (span : Span) : Nat := span.stop - span.start

def Inside (span : Span) (length : Nat) : Prop := span.start ≤ span.stop ∧ span.stop ≤ length

instance (span : Span) (length : Nat) : Decidable (span.Inside length) :=
  inferInstanceAs (Decidable (_ ∧ _))

def Covers (span : Span) (place : Nat) : Prop := span.start ≤ place ∧ place < span.stop

end Span

structure RingCopy where
  cells : Span
  bytes : Span
deriving DecidableEq, Repr

structure RingCopy.Fits (copy : RingCopy) (cells bytes : Nat) : Prop where
  cells_inside : copy.cells.Inside cells
  bytes_inside : copy.bytes.Inside bytes
  sizes_eq : copy.cells.size = copy.bytes.size

namespace Guarded

def sum (one two : Nat) : Except Hazard Nat :=
  if one + two < wordLimit then .ok (one + two) else .error .sumTooLarge

def difference (one two : Nat) : Except Hazard Nat :=
  if two ≤ one then .ok (one - two) else .error .differenceBelowZero

def remainder (number divisor : Nat) : Except Hazard Nat :=
  if divisor = 0 then .error .divisorZero else .ok (number % divisor)

def range (bytes : Bytes) (span : Span) : Except Hazard Bytes :=
  if span.Inside bytes.length then .ok (Bytes.slice bytes span.start span.size)
  else .error .rangeOutside

def copy (target : Bytes) (into : Span) (source : Bytes) (taken : Span) : Except Hazard Bytes := do
  let old ← range target into
  let new ← range source taken
  if old.length = new.length then .ok (Bytes.overwrite target into.start new)
  else .error .lengthsDiffer

def copyAll (into taken : RingCopy → Span) (source target : Bytes) (copies : List RingCopy) :
    Except Hazard Bytes :=
  copies.foldlM (fun target made => copy target (into made) source (taken made)) target

theorem sum_eq {one two : Nat} (one_le : one ≤ storageLimit) (two_le : two ≤ storageLimit) :
    sum one two = .ok (one + two) := by
  have words : storageLimit + storageLimit < wordLimit := by decide
  exact if_pos (by omega)

theorem difference_eq {one two : Nat} (le : two ≤ one) : difference one two = .ok (one - two) :=
  if_pos le

theorem remainder_eq {number divisor : Nat} (pos : 0 < divisor) :
    remainder number divisor = .ok (number % divisor) :=
  if_neg (Nat.ne_of_gt pos)

section Copies

variable {source target : Bytes}

theorem copy_eq {into taken : Span} (into_inside : into.Inside target.length)
    (taken_inside : taken.Inside source.length) (sizes : into.size = taken.size) :
    copy target into source taken =
      .ok (Bytes.overwrite target into.start (Bytes.slice source taken.start taken.size)) := by
  have lengths : (Bytes.slice target into.start into.size).length =
      (Bytes.slice source taken.start taken.size).length := by
    obtain ⟨_, into_le⟩ := into_inside
    obtain ⟨_, taken_le⟩ := taken_inside
    unfold Span.size at sizes ⊢
    rw [Bytes.length_slice, Bytes.length_slice]
    omega
  simp [copy, range, into_inside, taken_inside, lengths, bind, Except.bind]

theorem length_copied {into taken : Span} (into_inside : into.Inside target.length)
    (sizes : into.size = taken.size) :
    (Bytes.overwrite target into.start (Bytes.slice source taken.start taken.size)).length =
      target.length := by
  obtain ⟨ordered, into_le⟩ := into_inside
  apply Bytes.length_overwrite
  rw [Bytes.length_slice]
  unfold Span.size at sizes ⊢
  omega

-- Each copy leaves the target as long as it was, so that the ranges of the next one still lie within it.
theorem copyAll_eq (into taken : RingCopy → Span) (copies : List RingCopy)
    (fits : ∀ made ∈ copies, (into made).Inside target.length ∧ (taken made).Inside source.length ∧
      (into made).size = (taken made).size) :
    copyAll into taken source target copies =
      .ok (copies.foldl (fun target made => Bytes.overwrite target (into made).start
        (Bytes.slice source (taken made).start (taken made).size)) target) := by
  induction copies generalizing target with
  | nil => rfl
  | cons made later ih =>
    obtain ⟨into_inside, taken_inside, sizes⟩ := fits made List.mem_cons_self
    simp only [copyAll, List.foldlM_cons, copy_eq into_inside taken_inside sizes, bind, Except.bind]
    refine ih ?_
    intro other member
    rw [length_copied into_inside sizes]
    exact fits other (List.mem_cons_of_mem _ member)

end Copies

end Guarded

def RingUse.bytes : RingUse → Bytes
  | .put source => source
  | .peek target => target
  | .consume _ => []

namespace Ring

open Guarded

-- The store once more, each sum, difference, remainder and range of it guarded.

def guardedOfCapacity (capacity : Nat) : Except Hazard Ring := do
  let cells ← sum capacity 1
  if cells ≤ storageLimit then .ok ⟨List.replicate cells 0, 0, 0, 0⟩ else .error .storageTooLarge

def guardedCapacity (ring : Ring) : Except Hazard Nat := difference ring.size 1

def guardedDistance (ring : Ring) (start stop : Nat) : Except Hazard Nat :=
  if start ≤ stop then difference stop start
  else do
    let beforeEnd ← difference ring.size start
    sum beforeEnd stop

def guardedAdvance (ring : Ring) (cursor steps : Nat) : Except Hazard Nat := do
  let place ← sum cursor steps
  remainder place ring.size

def guardedLength (ring : Ring) : Except Hazard Nat := ring.guardedDistance ring.readAt ring.writeAt

def guardedPeeked (ring : Ring) : Except Hazard Nat := ring.guardedDistance ring.readAt ring.peekAt

def guardedFree (ring : Ring) : Except Hazard Nat := do
  let capacity ← ring.guardedCapacity
  let length ← ring.guardedLength
  difference capacity length

def guardedPieces (ring : Ring) (cursor count : Nat) : Except Hazard (List RingCopy) := do
  let beforeEnd ← difference ring.size cursor
  let first := min count beforeEnd
  let stop ← sum cursor first
  let second ← difference count first
  return [⟨⟨cursor, stop⟩, ⟨0, first⟩⟩, ⟨⟨0, second⟩, ⟨first, count⟩⟩]

def guardedConsume (ring : Ring) (count : Nat) : Except Hazard (Nat × Ring) := do
  let peeked ← ring.guardedPeeked
  let dropped := min count peeked
  let readAt ← ring.guardedAdvance ring.readAt dropped
  return (dropped, { ring with readAt })

-- A peek and a put also tell the copies that were made.

def guardedPeek (ring : Ring) (target : Bytes) :
    Except Hazard (List RingCopy × Nat × Bytes × Ring) := do
  let length ← ring.guardedLength
  let count := min target.length length
  if count = 0 then return ([], 0, target, ring)
  let copies ← ring.guardedPieces ring.readAt count
  let staged ← copyAll (·.bytes) (·.cells) ring.storage target copies
  let peekAt ← ring.guardedAdvance ring.readAt count
  return (copies, count, staged, { ring with peekAt })

def guardedPut (ring : Ring) (source : Bytes) : Except Hazard (List RingCopy × Nat × Ring) := do
  let free ← ring.guardedFree
  let count := min source.length free
  if count = 0 then return ([], 0, ring)
  let copies ← ring.guardedPieces ring.writeAt count
  let storage ← copyAll (·.cells) (·.bytes) source ring.storage copies
  let writeAt ← ring.guardedAdvance ring.writeAt count
  return (copies, count, { ring with storage, writeAt })

def guardedGauge (ring : Ring) : Except Hazard RingGauge := do
  let length ← ring.guardedLength
  let free ← ring.guardedFree
  let peeked ← ring.guardedPeeked
  let capacity ← ring.guardedCapacity
  return { length, free, peeked, isEmpty := ring.isEmpty, capacity }

def guardedUse (ring : Ring) : RingUse → Except Hazard (List RingCopy × RingAnswer × Ring)
  | .put source => do
    let (copies, count, next) ← ring.guardedPut source
    let gauge ← next.guardedGauge
    return (copies, ⟨count, none, gauge⟩, next)
  | .peek target => do
    let (copies, count, left, next) ← ring.guardedPeek target
    let gauge ← next.guardedGauge
    return (copies, ⟨count, some left, gauge⟩, next)
  | .consume count => do
    let (dropped, next) ← ring.guardedConsume count
    let gauge ← next.guardedGauge
    return ([], ⟨dropped, none, gauge⟩, next)

def guardedAnswers (ring : Ring) : List RingUse → Except Hazard (List RingAnswer)
  | [] => return []
  | asked :: later => do
    let (_, answer, next) ← ring.guardedUse asked
    let answers ← next.guardedAnswers later
    return answer :: answers

def pieces (ring : Ring) (cursor count : Nat) : List RingCopy :=
  let first := ring.beforeWrap cursor count
  [⟨⟨cursor, cursor + first⟩, ⟨0, first⟩⟩, ⟨⟨0, count - first⟩, ⟨first, count⟩⟩]

def copies (ring : Ring) (cursor count : Nat) : List RingCopy :=
  if count = 0 then [] else ring.pieces cursor count

def useCopies (ring : Ring) : RingUse → List RingCopy
  | .put source => ring.copies ring.writeAt (ring.put source).1
  | .peek target => ring.copies ring.readAt (ring.peek target).1
  | .consume _ => []

theorem guardedOfCapacity_eq {capacity : Nat} (addressable : capacity + 1 ≤ storageLimit) :
    guardedOfCapacity capacity = .ok (ofCapacity capacity) := by
  have one : 1 ≤ storageLimit := by decide
  simp only [guardedOfCapacity, sum_eq (Nat.le_of_succ_le addressable) one, bind, Except.bind]
  exact if_pos addressable

variable {ring : Ring}

theorem guardedDistance_eq {start stop : Nat} (startInside : start < ring.size)
    (small : ring.size ≤ storageLimit) :
    ring.guardedDistance start stop = .ok (ring.distance start stop) := by
  unfold guardedDistance distance
  split
  · exact difference_eq ‹_›
  · simp only [difference_eq (Nat.le_of_lt startInside), bind, Except.bind]
    exact sum_eq (by omega) (by omega)

theorem guardedAdvance_eq {cursor steps : Nat} (cursorInside : cursor < ring.size)
    (steps_le : steps ≤ ring.size) (small : ring.size ≤ storageLimit) :
    ring.guardedAdvance cursor steps = .ok (ring.advance cursor steps) := by
  simp only [guardedAdvance, sum_eq (by omega : cursor ≤ storageLimit) (by omega : steps ≤ storageLimit),
    bind, Except.bind]
  exact remainder_eq (by omega)

theorem guardedPieces_eq {cursor count : Nat} (cursorInside : cursor < ring.size)
    (small : ring.size ≤ storageLimit) :
    ring.guardedPieces cursor count = .ok (ring.pieces cursor count) := by
  have first_le : ring.beforeWrap cursor count ≤ storageLimit := by unfold beforeWrap; omega
  have first_le_count : ring.beforeWrap cursor count ≤ count := Nat.min_le_left _ _
  unfold beforeWrap at first_le first_le_count
  simp only [guardedPieces, difference_eq (Nat.le_of_lt cursorInside),
    sum_eq (by omega : cursor ≤ storageLimit) first_le, difference_eq first_le_count, bind, Except.bind]
  rfl

theorem fits_of_mem_pieces {cursor count bytes : Nat} (cursorInside : cursor < ring.size)
    (once : count ≤ ring.size) (enough : count ≤ bytes) {made : RingCopy}
    (member : made ∈ ring.pieces cursor count) : made.Fits ring.size bytes := by
  have first_le : ring.beforeWrap cursor count ≤ count := Nat.min_le_left _ _
  have first_room : ring.beforeWrap cursor count ≤ ring.size - cursor := Nat.min_le_right _ _
  simp only [pieces, List.mem_cons, List.not_mem_nil, or_false] at member
  rcases member with rfl | rfl
  · refine ⟨⟨?_, ?_⟩, ⟨?_, ?_⟩, ?_⟩ <;> dsimp only [Span.size] <;> omega
  · refine ⟨⟨?_, ?_⟩, ⟨?_, ?_⟩, ?_⟩ <;> dsimp only [Span.size] <;> omega

theorem distance_of_covered {cursor count cell : Nat} (inside : cursor < ring.size) {made : RingCopy}
    (member : made ∈ ring.pieces cursor count) (covered : made.cells.Covers cell) :
    ring.distance cursor cell < count := by
  have first : ring.beforeWrap cursor count = min count (ring.size - cursor) := rfl
  obtain ⟨start_le, lt_stop⟩ := covered
  simp only [pieces, List.mem_cons, List.not_mem_nil, or_false] at member
  unfold distance
  rcases member with rfl | rfl
  · dsimp only at start_le lt_stop
    split <;> omega
  · dsimp only at start_le lt_stop
    split <;> omega

theorem overwrite_front (target : Bytes) (count : Nat) :
    (ring.pieces ring.readAt count).foldl (fun target made => Bytes.overwrite target made.bytes.start
        (Bytes.slice ring.storage made.cells.start made.cells.size)) target =
      Bytes.overwrite target 0 (ring.front count) := by
  have first : (Bytes.slice ring.storage ring.readAt (ring.beforeWrap ring.readAt count)).length =
      ring.beforeWrap ring.readAt count := by
    simp only [Bytes.length_slice, beforeWrap, size]
    omega
  have joined := Bytes.overwrite_overwrite target
    (Bytes.slice ring.storage ring.readAt (ring.beforeWrap ring.readAt count))
    (Bytes.slice ring.storage 0 (count - ring.beforeWrap ring.readAt count)) (Nat.zero_le _)
  rw [first, Nat.zero_add] at joined
  simp only [pieces, List.foldl_cons, List.foldl_nil, Span.size, Nat.add_sub_cancel_left, Nat.sub_zero]
  exact joined

theorem mem_pieces {cursor count : Nat} {made : RingCopy} (member : made ∈ ring.copies cursor count) :
    made ∈ ring.pieces cursor count := by
  unfold copies at member
  split at member
  · cases member
  · exact member

section Guards

variable (sound : ring.Sound)
include sound

theorem Sound.guardedCapacity_eq : ring.guardedCapacity = .ok ring.capacity := by
  have inside := sound.readAt_lt
  exact difference_eq (by omega)

variable (small : ring.size ≤ storageLimit)
include small

theorem Sound.guardedLength_eq : ring.guardedLength = .ok ring.length :=
  guardedDistance_eq sound.readAt_lt small

theorem Sound.guardedPeeked_eq : ring.guardedPeeked = .ok ring.peeked :=
  guardedDistance_eq sound.readAt_lt small

theorem Sound.guardedFree_eq : ring.guardedFree = .ok ring.free := by
  have room := sound.length_add_free
  simp only [guardedFree, sound.guardedCapacity_eq, sound.guardedLength_eq small, bind, Except.bind]
  exact difference_eq (by omega)

theorem Sound.guardedGauge_eq : ring.guardedGauge = .ok ring.gauge := by
  simp only [guardedGauge, sound.guardedCapacity_eq, sound.guardedLength_eq small,
    sound.guardedPeeked_eq small, sound.guardedFree_eq small, bind, Except.bind]
  rfl

theorem Sound.guardedConsume_eq (count : Nat) : ring.guardedConsume count = .ok (ring.consume count) := by
  have marked := sound.peeked_le
  have short := sound.length_lt
  have once : min count ring.peeked ≤ ring.size := by omega
  simp only [guardedConsume, sound.guardedPeeked_eq small,
    guardedAdvance_eq sound.readAt_lt once small, bind, Except.bind]
  rfl

theorem Sound.guardedPeek_eq (target : Bytes) :
    ring.guardedPeek target = .ok (ring.useCopies (.peek target), ring.peek target) := by
  have short := sound.length_lt
  have inside := sound.readAt_lt
  have enough : min target.length ring.length ≤ target.length := Nat.min_le_left _ _
  have once : min target.length ring.length ≤ ring.size := by omega
  have written : copyAll (·.bytes) (·.cells) ring.storage target
      (ring.pieces ring.readAt (min target.length ring.length)) =
        .ok (Bytes.overwrite target 0 (ring.front (min target.length ring.length))) := by
    rw [copyAll_eq, overwrite_front]
    intro made member
    have fits := fits_of_mem_pieces inside once enough member
    exact ⟨fits.bytes_inside, fits.cells_inside, fits.sizes_eq.symm⟩
  simp only [guardedPeek, sound.guardedLength_eq small, guardedPieces_eq inside small, written,
    guardedAdvance_eq inside once small, useCopies, copies, peek_count, bind, Except.bind]
  unfold Ring.peek
  dsimp only
  split
  · rfl
  · rfl

theorem Sound.guardedPut_eq (source : Bytes) :
    ring.guardedPut source = .ok (ring.useCopies (.put source), ring.put source) := by
  have room := sound.length_add_free
  have inside := sound.writeAt_lt
  have enough : min source.length ring.free ≤ source.length := Nat.min_le_left _ _
  have once : min source.length ring.free ≤ ring.size := by unfold Ring.capacity at room; omega
  have fits : ∀ made ∈ ring.pieces ring.writeAt (min source.length ring.free),
      made.cells.Inside ring.storage.length ∧ made.bytes.Inside source.length ∧
        made.cells.size = made.bytes.size := by
    intro made member
    have fits := fits_of_mem_pieces inside once enough member
    exact ⟨fits.cells_inside, fits.bytes_inside, fits.sizes_eq⟩
  have written := copyAll_eq (·.cells) (·.bytes) _ fits
  simp only [guardedPut, sound.guardedFree_eq small, guardedPieces_eq inside small, written,
    guardedAdvance_eq inside once small, useCopies, copies, put_count, bind, Except.bind]
  unfold Ring.put
  dsimp only
  split
  · rfl
  · rfl

theorem Sound.guardedUse_eq (asked : RingUse) :
    ring.guardedUse asked = .ok (ring.useCopies asked, ring.use asked) := by
  cases asked with
  | put source =>
    have gauge := (sound.put source).guardedGauge_eq (by rwa [size_put sound])
    simp only [guardedUse, sound.guardedPut_eq small, gauge, bind, Except.bind]
    rfl
  | peek target =>
    have gauge := (sound.peek target).guardedGauge_eq (by rwa [size_peek])
    simp only [guardedUse, sound.guardedPeek_eq small, gauge, bind, Except.bind]
    rfl
  | consume count =>
    have gauge := (sound.consume count).guardedGauge_eq (by rwa [size_consume])
    simp only [guardedUse, sound.guardedConsume_eq small, gauge, bind, Except.bind]
    rfl

theorem Sound.guardedAnswers_eq (uses : List RingUse) :
    ring.guardedAnswers uses = .ok (ring.answers uses) := by
  induction uses generalizing ring with
  | nil => rfl
  | cons asked later ih =>
    have rest := ih (sound.use asked) (by rwa [sound.size_use])
    simp only [guardedAnswers, sound.guardedUse_eq small, rest, bind, Except.bind]
    rfl

end Guards

theorem Sound.fits_of_mem_useCopies (sound : ring.Sound) {asked : RingUse} {made : RingCopy}
    (member : made ∈ ring.useCopies asked) : made.Fits ring.size asked.bytes.length := by
  have room := sound.length_add_free
  have short := sound.length_lt
  unfold Ring.capacity at room
  cases asked with
  | put source =>
    have count := put_count ring source
    have enough : (ring.put source).1 ≤ source.length := by omega
    exact fits_of_mem_pieces sound.writeAt_lt (by omega) enough (mem_pieces member)
  | peek target =>
    have count := peek_count ring target
    have enough : (ring.peek target).1 ≤ target.length := by omega
    exact fits_of_mem_pieces sound.readAt_lt (by omega) enough (mem_pieces member)
  | consume count => cases member

-- Going round from the write cursor, what a put takes ends before the first cell that is held.
theorem Sound.not_covers_held (sound : ring.Sound) {source : Bytes} {made : RingCopy}
    (member : made ∈ ring.useCopies (.put source)) {index : Nat} (held : index < ring.length) :
    ¬ made.cells.Covers (ring.advance ring.readAt index) := by
  intro covered
  have room := sound.length_add_free
  have short := sound.length_lt
  have count := put_count ring source
  have far := sound.distance_of_held held
  have near := distance_of_covered sound.writeAt_lt (mem_pieces member) covered
  unfold Ring.capacity at room
  omega

structure InOrder (ring : Ring) (capacity : Nat) : Prop where
  size_eq : ring.size = capacity + 1
  readAt_lt : ring.readAt < capacity + 1
  peekAt_lt : ring.peekAt < capacity + 1
  writeAt_lt : ring.writeAt < capacity + 1
  peekAt_eq : ring.peekAt = (ring.readAt + ring.peeked) % (capacity + 1)
  writeAt_eq : ring.writeAt = (ring.readAt + ring.length) % (capacity + 1)
  peeked_le : ring.peeked ≤ ring.length
  length_le : ring.length ≤ capacity

theorem Sound.inOrder (sound : ring.Sound) {capacity : Nat} (size : ring.size = capacity + 1) :
    ring.InOrder capacity := by
  obtain ⟨read, peek, write, marked⟩ := sound
  have short := distance_lt read write
  have peekAt := advance_distance read peek
  have writeAt := advance_distance read write
  unfold advance at peekAt writeAt
  rw [size] at read peek write short peekAt writeAt
  exact ⟨size, read, peek, write, peekAt.symm, writeAt.symm, marked, Nat.le_of_lt_succ short⟩

-- A store whose storage can be had at all, used in any way: making it and each use of it pass every
-- guard, and answer as without guards. Wherever that leaves it, the cursors are in order; each copy of
-- any next use takes two ranges of one size, within the storage and within the bytes brought; and the
-- cells that a put takes are none of those that hold an unconsumed byte.
-- Neither the lengths of what is brought nor the counts that are consumed are bounded.
theorem every_use_passes_its_guards (capacity : Nat) (addressable : capacity + 1 ≤ storageLimit)
    (uses : List RingUse) :
    let ring := (ofCapacity capacity).after uses
    (guardedOfCapacity capacity >>= fun made => made.guardedAnswers uses) =
        .ok ((ofCapacity capacity).answers uses) ∧
      ring.InOrder capacity ∧
      ∀ asked : RingUse, ring.guardedUse asked = .ok (ring.useCopies asked, ring.use asked) ∧
        ∀ made ∈ ring.useCopies asked, made.Fits (capacity + 1) asked.bytes.length ∧
          ∀ source, asked = .put source → ∀ index < ring.length,
            ¬ made.cells.Covers (ring.advance ring.readAt index) := by
  intro ring
  have begun := sound_ofCapacity capacity
  have cells : (ofCapacity capacity).size = capacity + 1 := by simp [ofCapacity, size]
  have sound := begun.after uses
  have size : ring.size = capacity + 1 := (begun.size_after uses).trans cells
  refine ⟨?_, sound.inOrder size, ?_⟩
  · simp only [guardedOfCapacity_eq addressable, bind, Except.bind]
    exact begun.guardedAnswers_eq (by rwa [cells]) uses
  · intro asked
    refine ⟨sound.guardedUse_eq (by rwa [size]) asked, ?_⟩
    intro made member
    have fits := sound.fits_of_mem_useCopies member
    rw [size] at fits
    refine ⟨fits, ?_⟩
    rintro source rfl index held
    exact sound.not_covers_held member held

-- Six cells of nine have been used and five bytes given back when seven more are put in: the first copy
-- ends where the storage does, and the second ends before the byte that is still held.
theorem every_use_passes_its_guards_round_the_end :
    let uses : List RingUse := [.put [1, 2, 3, 4, 5, 6], .peek [0, 0, 0, 0, 0], .consume 5]
    let ring := (ofCapacity 8).after uses
    let asked : RingUse := .put [7, 8, 9, 10, 11, 12, 13]
    let copies : List RingCopy := [⟨⟨6, 9⟩, ⟨0, 3⟩⟩, ⟨⟨0, 4⟩, ⟨3, 7⟩⟩]
    8 + 1 ≤ storageLimit ∧ ring.InOrder 8 ∧ ring.readAt = 5 ∧ ring.length = 1 ∧
      (guardedOfCapacity 8 >>= fun made => made.guardedAnswers uses) =
        .ok ((ofCapacity 8).answers uses) ∧
      ring.guardedUse asked = .ok (copies, ring.use asked) ∧ (ring.use asked).1.count = 7 ∧
      ∀ made ∈ copies, made.Fits 9 7 ∧ ¬ made.cells.Covers 5 := by
  intro uses ring asked copies
  obtain ⟨answered, inOrder, passes⟩ := every_use_passes_its_guards 8 (by decide) uses
  obtain ⟨passed, harmless⟩ := passes asked
  have same : ring.useCopies asked = copies := by decide
  rw [same] at passed harmless
  refine ⟨by decide, inOrder, by decide, by decide, answered, passed, by decide, ?_⟩
  intro made member
  obtain ⟨fits, apart⟩ := harmless made member
  exact ⟨fits, apart _ rfl 0 (by decide)⟩

end Ring

end SecureEcho
