import Mathlib.Data.List.Basic
import Mathlib.Data.List.Infix
import SecureEcho.Ring

namespace SecureEcho

namespace Bytes

theorem getElem?_slice (bytes : Bytes) (start count index : Nat) :
    (slice bytes start count)[index]? = if index < count then bytes[start + index]? else none := by
  simp [slice, List.getElem?_take, List.getElem?_drop]

theorem length_slice (bytes : Bytes) (start count : Nat) :
    (slice bytes start count).length = min count (bytes.length - start) := by
  simp [slice]

theorem getElem?_overwrite (target patch : Bytes) (start index : Nat)
    (fits : start + patch.length ≤ target.length) :
    (overwrite target start patch)[index]? =
      if start ≤ index ∧ index < start + patch.length then patch[index - start]? else target[index]? := by
  have before : (target.take start).length = start := by simp; omega
  unfold overwrite
  rw [List.append_assoc]
  by_cases early : index < start
  · rw [List.getElem?_append_left (by omega), List.getElem?_take, if_pos early, if_neg (by omega)]
  · rw [List.getElem?_append_right (by omega), before]
    by_cases inside : index < start + patch.length
    · rw [List.getElem?_append_left (by omega), if_pos (by omega)]
    · rw [List.getElem?_append_right (by omega), List.getElem?_drop, if_neg (by omega)]
      congr 1
      omega

theorem take_overwrite (target patch : Bytes) : (overwrite target 0 patch).take patch.length = patch := by
  simp [overwrite]

theorem overwrite_overwrite (target one two : Bytes) {start : Nat} (inside : start ≤ target.length) :
    overwrite (overwrite target start one) (start + one.length) two =
      overwrite target start (one ++ two) := by
  have before : (target.take start).length = start := List.length_take_of_le inside
  have front : (overwrite target start one).take (start + one.length) = target.take start ++ one := by
    unfold overwrite
    rw [List.take_append_of_le_length (by simp [before]), List.take_of_length_le (by simp [before])]
  have back : (overwrite target start one).drop (start + one.length + two.length) =
      target.drop (start + one.length + two.length) := by
    unfold overwrite
    rw [List.drop_append, List.drop_eq_nil_of_le (by simp [before])]
    simp [before, Nat.add_assoc, Nat.add_sub_add_left]
  rw [overwrite, front, back, overwrite, List.length_append, ← Nat.add_assoc,
    List.append_assoc _ one two]

end Bytes

namespace Ring

-- The cursors lie in the storage, and the mark lies between the other two, going round.
structure Sound (ring : Ring) : Prop where
  readAt_lt : ring.readAt < ring.size
  peekAt_lt : ring.peekAt < ring.size
  writeAt_lt : ring.writeAt < ring.size
  peeked_le : ring.peeked ≤ ring.length

theorem sound_ofCapacity (capacity : Nat) : (ofCapacity capacity).Sound := by
  constructor <;> simp [ofCapacity, size, peeked, length, distance]

-- Cursor arithmetic: below, a cursor has gone round at most once.

theorem advance_eq {ring : Ring} {cursor steps : Nat} (inside : cursor < ring.size)
    (once : steps ≤ ring.size) :
    ring.advance cursor steps =
      if cursor + steps < ring.size then cursor + steps else cursor + steps - ring.size := by
  unfold advance
  split
  · exact Nat.mod_eq_of_lt ‹_›
  · rw [Nat.mod_eq_sub_mod (by omega), Nat.mod_eq_of_lt (by omega)]

theorem distance_lt {ring : Ring} {start stop : Nat} (startInside : start < ring.size)
    (stopInside : stop < ring.size) : ring.distance start stop < ring.size := by
  unfold distance
  split <;> omega

theorem advance_lt {ring : Ring} {cursor : Nat} (inside : cursor < ring.size) (steps : Nat) :
    ring.advance cursor steps < ring.size :=
  Nat.mod_lt _ (by omega)

theorem advance_advance (ring : Ring) (cursor one two : Nat) :
    ring.advance (ring.advance cursor one) two = ring.advance cursor (one + two) := by
  simp [advance, Nat.add_assoc]

theorem distance_advance_left {ring : Ring} {start stop steps : Nat} (startInside : start < ring.size)
    (stopInside : stop < ring.size) (steps_le : steps ≤ ring.distance start stop) :
    ring.distance (ring.advance start steps) stop = ring.distance start stop - steps := by
  have short := distance_lt startInside stopInside
  rw [advance_eq startInside (by omega)]
  unfold distance at steps_le ⊢
  split at steps_le <;> split <;> split <;> omega

theorem distance_advance_right {ring : Ring} {start stop steps : Nat} (startInside : start < ring.size)
    (stopInside : stop < ring.size) (room : ring.distance start stop + steps < ring.size) :
    ring.distance start (ring.advance stop steps) = ring.distance start stop + steps := by
  rw [advance_eq stopInside (by omega)]
  unfold distance at room ⊢
  split at room <;> split <;> split <;> omega

theorem advance_distance {ring : Ring} {start stop : Nat} (startInside : start < ring.size)
    (stopInside : stop < ring.size) : ring.advance start (ring.distance start stop) = stop := by
  have short := distance_lt startInside stopInside
  rw [advance_eq startInside (by omega)]
  unfold distance at short ⊢
  split at short <;> split <;> split <;> omega

theorem Sound.length_lt {ring : Ring} (sound : ring.Sound) : ring.length < ring.size :=
  distance_lt sound.readAt_lt sound.writeAt_lt

theorem Sound.length_add_free {ring : Ring} (sound : ring.Sound) :
    ring.length + ring.free = ring.capacity := by
  have short := sound.length_lt
  unfold free capacity
  omega

theorem Sound.isEmpty_iff {ring : Ring} (sound : ring.Sound) : ring.isEmpty = true ↔ ring.length = 0 := by
  have read := sound.readAt_lt
  have write := sound.writeAt_lt
  simp only [isEmpty, beq_iff_eq, length, distance]
  split <;> omega

theorem Sound.isEmpty_eq_false {ring : Ring} (sound : ring.Sound) (some : 0 < ring.length) :
    ring.isEmpty = false := by
  apply eq_false_of_ne_true
  rw [sound.isEmpty_iff]
  omega

theorem Sound.length_pos {ring : Ring} (sound : ring.Sound) (held : ring.isEmpty = false) :
    0 < ring.length := by
  apply Nat.pos_of_ne_zero
  rw [ne_eq, ← sound.isEmpty_iff, held]
  exact Bool.false_ne_true

theorem getElem?_front {ring : Ring} (inside : ring.readAt < ring.size) {count : Nat}
    (once : count ≤ ring.size) (index : Nat) :
    (ring.front count)[index]? =
      if index < count then ring.storage[ring.advance ring.readAt index]? else none := by
  have first : (Bytes.slice ring.storage ring.readAt (ring.beforeWrap ring.readAt count)).length =
      min count (ring.size - ring.readAt) := by
    simp only [Bytes.length_slice, beforeWrap, size]; omega
  unfold front
  by_cases early : index < min count (ring.size - ring.readAt)
  · rw [List.getElem?_append_left (by omega), Bytes.getElem?_slice, if_pos (by exact early),
      if_pos (by omega), advance_eq inside (by omega), if_pos (by omega)]
  · rw [List.getElem?_append_right (by omega), Bytes.getElem?_slice, first]
    by_cases late : index < count
    · rw [if_pos (by simp only [beforeWrap]; omega), if_pos late, advance_eq inside (by omega),
        if_neg (by omega)]
      congr 1
      omega
    · rw [if_neg (by simp only [beforeWrap]; omega), if_neg late]

theorem length_front {ring : Ring} (inside : ring.readAt < ring.size) {count : Nat}
    (once : count ≤ ring.size) : (ring.front count).length = count := by
  unfold size at inside once
  simp only [front, List.length_append, Bytes.length_slice, beforeWrap, size]
  omega

theorem Sound.length_contents {ring : Ring} (sound : ring.Sound) : ring.contents.length = ring.length :=
  length_front sound.readAt_lt (Nat.le_of_lt sound.length_lt)

theorem Sound.contents_eq_nil_iff {ring : Ring} (sound : ring.Sound) :
    ring.contents = [] ↔ ring.isEmpty = true := by
  rw [sound.isEmpty_iff, ← sound.length_contents, List.length_eq_zero_iff]

theorem contents_ofCapacity (capacity : Nat) : (ofCapacity capacity).contents = [] :=
  (sound_ofCapacity capacity).contents_eq_nil_iff.mpr (by simp [ofCapacity, isEmpty])

theorem front_eq_take {ring : Ring} (sound : ring.Sound) {count : Nat} (held : count ≤ ring.length) :
    ring.front count = ring.contents.take count := by
  have short := sound.length_lt
  apply List.ext_getElem?
  intro index
  rw [getElem?_front sound.readAt_lt (by omega), List.getElem?_take, contents,
    getElem?_front sound.readAt_lt (by omega)]
  split
  · rw [if_pos (by omega)]
  · rfl

-- Where a cell of the storage lies, seen from the write cursor.

theorem Sound.distance_of_held {ring : Ring} (sound : ring.Sound) {index : Nat}
    (held : index < ring.length) :
    ring.distance ring.writeAt (ring.advance ring.readAt index) = ring.size - ring.length + index := by
  have read := sound.readAt_lt
  have write := sound.writeAt_lt
  have short := sound.length_lt
  rw [advance_eq read (by omega)]
  unfold length distance at held short ⊢
  split at held <;> split <;> split <;> omega

theorem Sound.distance_of_beyond {ring : Ring} (sound : ring.Sound) {index : Nat}
    (beyond : ring.length ≤ index) (inside : index < ring.size) :
    ring.distance ring.writeAt (ring.advance ring.readAt index) = index - ring.length := by
  have read := sound.readAt_lt
  have write := sound.writeAt_lt
  rw [advance_eq read (by omega)]
  unfold length distance at beyond ⊢
  split at beyond <;> split <;> split <;> omega

-- Consuming.

theorem size_consume (ring : Ring) (count : Nat) : (ring.consume count).2.size = ring.size := rfl

theorem Sound.length_consume {ring : Ring} (sound : ring.Sound) (count : Nat) :
    (ring.consume count).2.length = ring.length - min count ring.peeked := by
  have marked := sound.peeked_le
  exact distance_advance_left sound.readAt_lt sound.writeAt_lt
    (Nat.le_trans (Nat.min_le_right _ _) marked)

theorem Sound.peeked_consume {ring : Ring} (sound : ring.Sound) (count : Nat) :
    (ring.consume count).2.peeked = ring.peeked - min count ring.peeked :=
  distance_advance_left sound.readAt_lt sound.peekAt_lt (Nat.min_le_right _ _)

theorem Sound.consume {ring : Ring} (sound : ring.Sound) (count : Nat) :
    (ring.consume count).2.Sound where
  readAt_lt := advance_lt sound.readAt_lt _
  peekAt_lt := sound.peekAt_lt
  writeAt_lt := sound.writeAt_lt
  peeked_le := by
    rw [sound.length_consume, sound.peeked_consume]
    exact Nat.sub_le_sub_right sound.peeked_le _

theorem Sound.contents_consume {ring : Ring} (sound : ring.Sound) (count : Nat) :
    (ring.consume count).2.contents = ring.contents.drop (min count ring.peeked) := by
  have marked := sound.peeked_le
  have short := sound.length_lt
  have next := sound.consume count
  apply List.ext_getElem?
  intro index
  rw [List.getElem?_drop, contents, contents, getElem?_front next.readAt_lt next.length_lt.le,
    getElem?_front sound.readAt_lt short.le, sound.length_consume]
  by_cases held : index < ring.length - min count ring.peeked
  · rw [if_pos held, if_pos (by omega)]
    exact congrArg (ring.storage[·]?) (advance_advance ring ring.readAt _ index)
  · rw [if_neg held, if_neg (by omega)]

-- Peeking.

theorem peek_count (ring : Ring) (target : Bytes) :
    (ring.peek target).1 = min target.length ring.length := by
  unfold peek
  dsimp only
  split
  · exact Eq.symm ‹_›
  · rfl

theorem Sound.peeked_peek {ring : Ring} (sound : ring.Sound) (target : Bytes) :
    (ring.peek target).2.2.peeked =
      if (ring.peek target).1 = 0 then ring.peeked else (ring.peek target).1 := by
  have short := sound.length_lt
  have start : ring.distance ring.readAt ring.readAt = 0 := by simp [distance]
  rw [peek_count]
  unfold peek
  dsimp only
  split
  · rfl
  · have around : ring.distance ring.readAt
        (ring.advance ring.readAt (min target.length ring.length)) =
          ring.distance ring.readAt ring.readAt + min target.length ring.length :=
      distance_advance_right sound.readAt_lt sound.readAt_lt (by omega)
    rw [start, Nat.zero_add] at around
    exact around

theorem contents_peek (ring : Ring) (target : Bytes) :
    (ring.peek target).2.2.contents = ring.contents := by
  unfold peek
  dsimp only
  split <;> rfl

theorem length_peek (ring : Ring) (target : Bytes) : (ring.peek target).2.2.length = ring.length := by
  unfold peek
  dsimp only
  split <;> rfl

theorem size_peek (ring : Ring) (target : Bytes) : (ring.peek target).2.2.size = ring.size := by
  unfold peek
  dsimp only
  split <;> rfl

theorem Sound.peek {ring : Ring} (sound : ring.Sound) (target : Bytes) :
    (ring.peek target).2.2.Sound := by
  have marked := sound.peeked_peek target
  have count := peek_count ring target
  have kept := sound.peeked_le
  refine ⟨?_, ?_, ?_, ?_⟩
  · unfold Ring.peek; dsimp only; split <;> exact sound.readAt_lt
  · unfold Ring.peek
    dsimp only
    split
    · exact sound.peekAt_lt
    · exact advance_lt sound.readAt_lt _
  · unfold Ring.peek; dsimp only; split <;> exact sound.writeAt_lt
  · rw [length_peek, marked]
    split <;> omega

theorem Sound.take_peek {ring : Ring} (sound : ring.Sound) (target : Bytes) :
    (ring.peek target).2.1.take (ring.peek target).1 = ring.contents.take (ring.peek target).1 := by
  have short := sound.length_lt
  unfold Ring.peek
  dsimp only
  split
  · simp
  · have size : (ring.front (min target.length ring.length)).length = min target.length ring.length :=
      length_front sound.readAt_lt (by omega)
    have copied := Bytes.take_overwrite target (ring.front (min target.length ring.length))
    rw [size] at copied
    dsimp only
    rw [copied, front_eq_take sound (Nat.min_le_right _ _)]

theorem Sound.length_target_peek {ring : Ring} (sound : ring.Sound) (target : Bytes) :
    (ring.peek target).2.1.length = target.length := by
  have short := sound.length_lt
  unfold Ring.peek
  dsimp only
  split
  · rfl
  · apply Bytes.length_overwrite
    rw [length_front sound.readAt_lt (by omega)]
    omega

structure Peeked (ring : Ring) (target : Bytes) (count : Nat) (staged : Bytes) (next : Ring) : Prop where
  count_eq : count = min target.length ring.length
  length_staged : staged.length = target.length
  take_staged : staged.take count = ring.contents.take count
  sound : next.Sound
  size_eq : next.size = ring.size
  length_eq : next.length = ring.length
  peeked_eq : 0 < count → next.peeked = count

theorem Sound.of_peek {ring next : Ring} (sound : ring.Sound) {target staged : Bytes} {count : Nat}
    (peek : ring.peek target = (count, staged, next)) : Peeked ring target count staged next := by
  have all : Peeked ring target (ring.peek target).1 (ring.peek target).2.1 (ring.peek target).2.2 := by
    refine ⟨peek_count ring target, sound.length_target_peek target, sound.take_peek target,
      sound.peek target, size_peek ring target, length_peek ring target, fun handed => ?_⟩
    rw [sound.peeked_peek, if_neg (Nat.ne_of_gt handed)]
  rwa [peek] at all

theorem Sound.count_pos {ring : Ring} (sound : ring.Sound) (held : ring.isEmpty = false)
    {target : Bytes} (room : target ≠ []) : 0 < (ring.peek target).1 := by
  have some := sound.length_pos held
  have length := List.length_pos_of_ne_nil room
  rw [peek_count]
  omega

theorem Sound.take_append_contents_consume {ring : Ring} (sound : ring.Sound) {target : Bytes}
    (handed : 0 < (ring.peek target).1) (taken : Nat) :
    ((ring.peek target).2.1.take (ring.peek target).1).take taken ++
      ((ring.peek target).2.2.consume taken).2.contents = ring.contents := by
  have marked : (ring.peek target).2.2.peeked = (ring.peek target).1 := by
    rw [sound.peeked_peek, if_neg (by omega)]
  rw [(sound.peek target).contents_consume, contents_peek, marked, sound.take_peek, List.take_take,
    List.take_append_drop]

-- Putting.

theorem put_count (ring : Ring) (source : Bytes) : (ring.put source).1 = min source.length ring.free := by
  unfold put
  dsimp only
  split
  · exact Eq.symm ‹_›
  · rfl

theorem getElem?_storage_put {ring : Ring} (sound : ring.Sound) (source : Bytes) (index : Nat) :
    (ring.put source).2.storage[index]? =
      if ring.distance ring.writeAt index < (ring.put source).1 ∧ index < ring.size
        then source[ring.distance ring.writeAt index]? else ring.storage[index]? := by
  have room := sound.length_add_free
  have write := sound.writeAt_lt
  rw [put_count]
  unfold put capacity size at *
  dsimp only
  split
  · rw [if_neg (by omega)]
  · have first : (Bytes.slice source 0 (ring.beforeWrap ring.writeAt (min source.length ring.free))).length
        = min (min source.length ring.free) (ring.storage.length - ring.writeAt) := by
      simp only [Bytes.length_slice, beforeWrap, size]; omega
    have second : (Bytes.slice source (ring.beforeWrap ring.writeAt (min source.length ring.free))
        (min source.length ring.free - ring.beforeWrap ring.writeAt (min source.length ring.free))).length
        = min source.length ring.free - (ring.storage.length - ring.writeAt) := by
      simp only [Bytes.length_slice, beforeWrap, size]; omega
    rw [Bytes.getElem?_overwrite _ _ _ _ (by rw [Bytes.length_overwrite _ _ _ (by omega)]; omega),
      Bytes.getElem?_overwrite _ _ _ _ (by omega), first, second, Bytes.getElem?_slice,
      Bytes.getElem?_slice]
    have count_lt : min source.length ring.free < ring.storage.length := by omega
    generalize min source.length ring.free = count at *
    unfold beforeWrap size
    -- The second run lies before the write cursor, because one cell stays empty.
    by_cases wrapped : index < count - (ring.storage.length - ring.writeAt)
    · have offset : ring.distance ring.writeAt index = ring.storage.length - ring.writeAt + index :=
        if_neg (by omega)
      rw [offset, if_pos (by omega), if_pos (by omega), if_pos (by omega)]
      congr 1
      omega
    · rw [if_neg (by omega)]
      by_cases straight : ring.writeAt ≤ index ∧
          index < ring.writeAt + min count (ring.storage.length - ring.writeAt)
      · have offset : ring.distance ring.writeAt index = index - ring.writeAt := if_pos straight.1
        rw [offset, if_pos straight, if_pos (by omega), if_pos (by omega), Nat.zero_add]
      · rw [if_neg straight, if_neg]
        unfold distance size
        split <;> omega

theorem size_put {ring : Ring} (sound : ring.Sound) (source : Bytes) :
    (ring.put source).2.size = ring.size := by
  have room := sound.length_add_free
  have write := sound.writeAt_lt
  unfold put capacity size at *
  dsimp only
  split
  · rfl
  · dsimp only
    rw [Bytes.length_overwrite, Bytes.length_overwrite]
    · simp only [Bytes.length_slice, beforeWrap, size]; omega
    · rw [Bytes.length_overwrite]
      all_goals simp only [Bytes.length_slice, beforeWrap, size]; omega

theorem readAt_put (ring : Ring) (source : Bytes) : (ring.put source).2.readAt = ring.readAt := by
  unfold put
  dsimp only
  split <;> rfl

theorem peekAt_put (ring : Ring) (source : Bytes) : (ring.put source).2.peekAt = ring.peekAt := by
  unfold put
  dsimp only
  split <;> rfl

theorem Sound.writeAt_put {ring : Ring} (sound : ring.Sound) (source : Bytes) :
    (ring.put source).2.writeAt = ring.advance ring.writeAt (ring.put source).1 := by
  unfold Ring.put
  dsimp only
  split
  · exact (Nat.mod_eq_of_lt sound.writeAt_lt).symm
  · rfl

theorem Sound.length_put {ring : Ring} (sound : ring.Sound) (source : Bytes) :
    (ring.put source).2.length = ring.length + (ring.put source).1 := by
  have room := sound.length_add_free
  have short := sound.length_lt
  have count := put_count ring source
  have same := size_put sound source
  unfold capacity at room
  unfold length at short room ⊢
  rw [sound.writeAt_put, readAt_put,
    ← distance_advance_right sound.readAt_lt sound.writeAt_lt (by omega)]
  unfold distance
  rw [same]

theorem Sound.peeked_put {ring : Ring} (sound : ring.Sound) (source : Bytes) :
    (ring.put source).2.peeked = ring.peeked := by
  unfold peeked distance
  rw [readAt_put, peekAt_put, size_put sound]

theorem Sound.put {ring : Ring} (sound : ring.Sound) (source : Bytes) : (ring.put source).2.Sound := by
  refine ⟨?_, ?_, ?_, ?_⟩
  · rw [readAt_put, size_put sound]; exact sound.readAt_lt
  · rw [peekAt_put, size_put sound]; exact sound.peekAt_lt
  · rw [sound.writeAt_put, size_put sound]; exact advance_lt sound.writeAt_lt _
  · rw [sound.peeked_put, sound.length_put]; exact Nat.le_add_right_of_le sound.peeked_le

theorem Sound.contents_put {ring : Ring} (sound : ring.Sound) (source : Bytes) :
    (ring.put source).2.contents = ring.contents ++ source.take (ring.put source).1 := by
  have room := sound.length_add_free
  have short := sound.length_lt
  have next := sound.put source
  have nextShort := next.length_lt
  have count := put_count ring source
  have read := sound.readAt_lt
  have write := sound.writeAt_lt
  rw [sound.length_put, size_put sound] at nextShort
  have cell : ∀ index, (ring.put source).2.advance (ring.put source).2.readAt index =
      ring.advance ring.readAt index := by
    intro index
    unfold advance
    rw [size_put sound, readAt_put]
  apply List.ext_getElem?
  intro index
  rw [contents, getElem?_front next.readAt_lt next.length_lt.le, sound.length_put, cell,
    getElem?_storage_put sound]
  by_cases held : index < ring.length
  · have far := sound.distance_of_held held
    rw [if_pos (by omega), if_neg (by omega),
      List.getElem?_append_left (by rw [sound.length_contents]; exact held), contents,
      getElem?_front sound.readAt_lt short.le, if_pos held]
  · rw [List.getElem?_append_right (by rw [sound.length_contents]; omega), sound.length_contents,
      List.getElem?_take]
    by_cases fresh : index < ring.length + (ring.put source).1
    · have beyond : ring.length ≤ index := by omega
      have offset := sound.distance_of_beyond beyond (by omega)
      have inside := advance_lt sound.readAt_lt index
      rw [if_pos fresh, offset, if_pos (by omega), if_pos (by omega)]
    · rw [if_neg fresh, if_neg (by omega)]

end Ring

end SecureEcho
