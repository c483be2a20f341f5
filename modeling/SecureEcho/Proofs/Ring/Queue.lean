import SecureEcho.Proofs.Ring.Contents

namespace SecureEcho

inductive RingUse where
  | put (source : Bytes)
  | peek (target : Bytes)
  | consume (count : Nat)
deriving DecidableEq, Repr

structure RingGauge where
  length : Nat
  free : Nat
  peeked : Nat
  isEmpty : Bool
  capacity : Nat
deriving DecidableEq, Repr

-- What comes of one use: how many bytes moved, the target of a peek as it was left, and what is
-- shown afterwards.
structure RingAnswer where
  count : Nat
  target : Option Bytes
  gauge : RingGauge
deriving DecidableEq, Repr

-- The bytes held, oldest first; the first `mark` of them have been handed out.
structure MarkedQueue where
  held : Bytes := []
  mark : Nat := 0
deriving DecidableEq, Repr

namespace MarkedQueue

def put (queue : MarkedQueue) (capacity : Nat) (source : Bytes) : Nat × MarkedQueue :=
  let count := min source.length (capacity - queue.held.length)
  (count, { queue with held := queue.held ++ source.take count })

def peek (queue : MarkedQueue) (target : Bytes) : Nat × Bytes × MarkedQueue :=
  let count := min target.length queue.held.length
  (count, queue.held.take count ++ target.drop count,
    { queue with mark := if 0 < count then count else queue.mark })

def consume (queue : MarkedQueue) (count : Nat) : Nat × MarkedQueue :=
  let dropped := min count queue.mark
  (dropped, ⟨queue.held.drop dropped, queue.mark - dropped⟩)

def gauge (queue : MarkedQueue) (capacity : Nat) : RingGauge :=
  { length := queue.held.length, free := capacity - queue.held.length, peeked := queue.mark,
    isEmpty := queue.held.isEmpty, capacity }

def use (queue : MarkedQueue) (capacity : Nat) : RingUse → RingAnswer × MarkedQueue
  | .put source =>
    let (count, next) := queue.put capacity source
    (⟨count, none, next.gauge capacity⟩, next)
  | .peek target =>
    let (count, left, next) := queue.peek target
    (⟨count, some left, next.gauge capacity⟩, next)
  | .consume count =>
    let (dropped, next) := queue.consume count
    (⟨dropped, none, next.gauge capacity⟩, next)

def after (queue : MarkedQueue) (capacity : Nat) (uses : List RingUse) : MarkedQueue :=
  uses.foldl (fun queue asked => (queue.use capacity asked).2) queue

def answers (queue : MarkedQueue) (capacity : Nat) : List RingUse → List RingAnswer
  | [] => []
  | asked :: later =>
    (queue.use capacity asked).1 :: (queue.use capacity asked).2.answers capacity later

structure Bounded (queue : MarkedQueue) (capacity : Nat) : Prop where
  held_le : queue.held.length ≤ capacity
  mark_le : queue.mark ≤ queue.held.length

theorem Bounded.use {queue : MarkedQueue} {capacity : Nat} (bounded : queue.Bounded capacity)
    (asked : RingUse) : (queue.use capacity asked).2.Bounded capacity := by
  obtain ⟨held_le, mark_le⟩ := bounded
  cases asked with
  | put source =>
    constructor
    · simp only [MarkedQueue.use, MarkedQueue.put, List.length_append, List.length_take]
      omega
    · simp only [MarkedQueue.use, MarkedQueue.put, List.length_append]
      omega
  | peek target =>
    refine ⟨held_le, ?_⟩
    simp only [MarkedQueue.use, MarkedQueue.peek]
    split <;> omega
  | consume count =>
    constructor
    · simp only [MarkedQueue.use, MarkedQueue.consume, List.length_drop]
      omega
    · simp only [MarkedQueue.use, MarkedQueue.consume, List.length_drop]
      omega

theorem Bounded.after {queue : MarkedQueue} {capacity : Nat} (bounded : queue.Bounded capacity)
    (uses : List RingUse) : (queue.after capacity uses).Bounded capacity := by
  induction uses generalizing queue with
  | nil => exact bounded
  | cons asked later ih => exact ih (bounded.use asked)

end MarkedQueue

namespace Ring

def gauge (ring : Ring) : RingGauge :=
  { length := ring.length, free := ring.free, peeked := ring.peeked, isEmpty := ring.isEmpty,
    capacity := ring.capacity }

def use (ring : Ring) : RingUse → RingAnswer × Ring
  | .put source =>
    let (count, next) := ring.put source
    (⟨count, none, next.gauge⟩, next)
  | .peek target =>
    let (count, left, next) := ring.peek target
    (⟨count, some left, next.gauge⟩, next)
  | .consume count =>
    let (dropped, next) := ring.consume count
    (⟨dropped, none, next.gauge⟩, next)

def after (ring : Ring) (uses : List RingUse) : Ring :=
  uses.foldl (fun ring asked => (ring.use asked).2) ring

def answers (ring : Ring) : List RingUse → List RingAnswer
  | [] => []
  | asked :: later => (ring.use asked).1 :: (ring.use asked).2.answers later

theorem Sound.use {ring : Ring} (sound : ring.Sound) (asked : RingUse) : (ring.use asked).2.Sound := by
  cases asked with
  | put source => exact sound.put source
  | peek target => exact sound.peek target
  | consume count => exact sound.consume count

theorem Sound.size_use {ring : Ring} (sound : ring.Sound) (asked : RingUse) :
    (ring.use asked).2.size = ring.size := by
  cases asked with
  | put source => exact size_put sound source
  | peek target => exact size_peek ring target
  | consume count => exact size_consume ring count

theorem Sound.after {ring : Ring} (sound : ring.Sound) (uses : List RingUse) :
    (ring.after uses).Sound := by
  induction uses generalizing ring with
  | nil => exact sound
  | cons asked later ih => exact ih (sound.use asked)

theorem Sound.size_after {ring : Ring} (sound : ring.Sound) (uses : List RingUse) :
    (ring.after uses).size = ring.size := by
  induction uses generalizing ring with
  | nil => rfl
  | cons asked later ih => exact (ih (sound.use asked)).trans (sound.size_use asked)

structure Holds (ring : Ring) (queue : MarkedQueue) (capacity : Nat) : Prop where
  sound : ring.Sound
  contents : ring.contents = queue.held
  peeked : ring.peeked = queue.mark
  capacity : ring.capacity = capacity

theorem holds_ofCapacity (capacity : Nat) : (ofCapacity capacity).Holds {} capacity where
  sound := sound_ofCapacity capacity
  contents := contents_ofCapacity capacity
  peeked := by simp [ofCapacity, Ring.peeked, distance]
  capacity := by simp [ofCapacity, Ring.capacity, size]

variable {ring : Ring} {queue : MarkedQueue} {capacity : Nat}

theorem Holds.length (holds : ring.Holds queue capacity) : ring.length = queue.held.length := by
  rw [← holds.sound.length_contents, holds.contents]

theorem Holds.free (holds : ring.Holds queue capacity) :
    ring.free = capacity - queue.held.length := by
  unfold Ring.free
  rw [holds.capacity, holds.length]

theorem Holds.gauge (holds : ring.Holds queue capacity) : ring.gauge = queue.gauge capacity := by
  have isEmpty : ring.isEmpty = queue.held.isEmpty := by
    rw [Bool.eq_iff_iff, ← holds.sound.contents_eq_nil_iff, holds.contents, List.isEmpty_iff]
  unfold Ring.gauge MarkedQueue.gauge
  rw [holds.length, holds.free, holds.peeked, holds.capacity, isEmpty]

-- One lemma for each use: the same count, and again a store that stands for the queue.

theorem Holds.put (holds : ring.Holds queue capacity) (source : Bytes) :
    (ring.put source).1 = (queue.put capacity source).1 ∧
      (ring.put source).2.Holds (queue.put capacity source).2 capacity := by
  have count : (ring.put source).1 = min source.length (capacity - queue.held.length) := by
    rw [put_count, holds.free]
  refine ⟨count, holds.sound.put source, ?_, ?_, ?_⟩
  · rw [holds.sound.contents_put, holds.contents, count]
    rfl
  · rw [holds.sound.peeked_put]
    exact holds.peeked
  · unfold Ring.capacity
    rw [size_put holds.sound]
    exact holds.capacity

theorem Sound.target_peek (sound : ring.Sound) (target : Bytes) :
    (ring.peek target).2.1 =
      ring.contents.take (ring.peek target).1 ++ target.drop (ring.peek target).1 := by
  have short := sound.length_lt
  rw [peek_count]
  unfold Ring.peek
  dsimp only
  split
  · rename_i none
    simp [none]
  · have few : min target.length ring.length ≤ ring.length := Nat.min_le_right _ _
    have long : (ring.front (min target.length ring.length)).length = min target.length ring.length :=
      length_front sound.readAt_lt (by omega)
    rw [← front_eq_take sound few]
    simp [Bytes.overwrite, long]

theorem Holds.peek (holds : ring.Holds queue capacity) (target : Bytes) :
    (ring.peek target).1 = (queue.peek target).1 ∧
      (ring.peek target).2.1 = (queue.peek target).2.1 ∧
      (ring.peek target).2.2.Holds (queue.peek target).2.2 capacity := by
  have count : (ring.peek target).1 = min target.length queue.held.length := by
    rw [peek_count, holds.length]
  refine ⟨count, ?_, holds.sound.peek target, ?_, ?_, ?_⟩
  · rw [holds.sound.target_peek, count, holds.contents]
    rfl
  · rw [contents_peek]
    exact holds.contents
  · have marked := holds.sound.peeked_peek target
    rw [count, holds.peeked] at marked
    rw [marked]
    simp only [MarkedQueue.peek]
    split <;> split <;> omega
  · unfold Ring.capacity
    rw [size_peek]
    exact holds.capacity

theorem Holds.consume (holds : ring.Holds queue capacity) (count : Nat) :
    (ring.consume count).1 = (queue.consume count).1 ∧
      (ring.consume count).2.Holds (queue.consume count).2 capacity := by
  have dropped : (ring.consume count).1 = min count queue.mark := by
    rw [← holds.peeked]
    rfl
  refine ⟨dropped, holds.sound.consume count, ?_, ?_, ?_⟩
  · rw [holds.sound.contents_consume, holds.contents, holds.peeked]
    rfl
  · rw [holds.sound.peeked_consume, holds.peeked]
    rfl
  · unfold Ring.capacity
    rw [size_consume]
    exact holds.capacity

theorem Holds.use (holds : ring.Holds queue capacity) (asked : RingUse) :
    (ring.use asked).1 = (queue.use capacity asked).1 ∧
      (ring.use asked).2.Holds (queue.use capacity asked).2 capacity := by
  cases asked with
  | put source =>
    obtain ⟨count, next⟩ := holds.put source
    refine ⟨?_, next⟩
    simp only [Ring.use, MarkedQueue.use, count, next.gauge]
  | peek target =>
    obtain ⟨count, left, next⟩ := holds.peek target
    refine ⟨?_, next⟩
    simp only [Ring.use, MarkedQueue.use, count, left, next.gauge]
  | consume count =>
    obtain ⟨dropped, next⟩ := holds.consume count
    refine ⟨?_, next⟩
    simp only [Ring.use, MarkedQueue.use, dropped, next.gauge]

theorem Holds.answers (holds : ring.Holds queue capacity) (uses : List RingUse) :
    ring.answers uses = queue.answers capacity uses := by
  induction uses generalizing ring queue with
  | nil => rfl
  | cons asked later ih =>
    obtain ⟨answer, next⟩ := holds.use asked
    rw [Ring.answers, MarkedQueue.answers, answer, ih next]

theorem Holds.after (holds : ring.Holds queue capacity) (uses : List RingUse) :
    (ring.after uses).Holds (queue.after capacity uses) capacity := by
  induction uses generalizing ring queue with
  | nil => exact holds
  | cons asked later ih => exact ih (holds.use asked).2

-- No use tells a store from the queue with its mark, however the cursors have gone round; and the
-- queue never holds more than the store is for, nor marks more than it holds.
theorem answers_eq_queue_answers (capacity : Nat) (uses : List RingUse) :
    let queue := MarkedQueue.after {} capacity uses
    (ofCapacity capacity).answers uses = MarkedQueue.answers {} capacity uses ∧
      ((ofCapacity capacity).after uses).gauge = queue.gauge capacity ∧
      ((ofCapacity capacity).after uses).contents = queue.held ∧
      queue.held.length ≤ capacity ∧ queue.mark ≤ queue.held.length := by
  intro queue
  have holds := (holds_ofCapacity capacity).after uses
  have bounded : queue.Bounded capacity :=
    MarkedQueue.Bounded.after ⟨Nat.zero_le _, Nat.le_refl _⟩ uses
  refine ⟨(holds_ofCapacity capacity).answers uses, holds.gauge, holds.contents, ?_, ?_⟩
  · exact bounded.held_le
  · exact bounded.mark_le

end Ring

end SecureEcho
