import SecureEcho.Proofs.Ring.Contents

namespace SecureEcho

namespace Bytes

-- The bytes themselves where they are shown, and only how many there are where not.
def veil (shown : Bool) (bytes : Bytes) : Bytes :=
  if shown then bytes else List.replicate bytes.length 0

@[simp] theorem length_veil (shown : Bool) (bytes : Bytes) :
    (veil shown bytes).length = bytes.length := by
  cases shown <;> simp [veil]

theorem veil_append (shown : Bool) (one two : Bytes) :
    veil shown (one ++ two) = veil shown one ++ veil shown two := by
  cases shown <;> simp [veil]

theorem veil_take (shown : Bool) (bytes : Bytes) (count : Nat) :
    veil shown (bytes.take count) = (veil shown bytes).take count := by
  cases shown <;> simp [veil]

theorem veil_drop (shown : Bool) (bytes : Bytes) (count : Nat) :
    veil shown (bytes.drop count) = (veil shown bytes).drop count := by
  cases shown <;> simp [veil]

theorem veil_slice (shown : Bool) (bytes : Bytes) (start count : Nat) :
    veil shown (slice bytes start count) = slice (veil shown bytes) start count := by
  simp [slice, veil_take, veil_drop]

theorem veil_overwrite (shown : Bool) (target patch : Bytes) (start : Nat) :
    veil shown (overwrite target start patch) =
      overwrite (veil shown target) start (veil shown patch) := by
  simp [overwrite, veil_append, veil_take, veil_drop]

theorem length_eq_of_veil {shown : Bool} {one two : Bytes} (same : veil shown one = veil shown two) :
    one.length = two.length := by
  simpa using congrArg List.length same

theorem isEmpty_of_veil {shown : Bool} {one two : Bytes} (same : veil shown one = veil shown two) :
    one.isEmpty = two.isEmpty := by
  rw [Bool.eq_iff_iff, List.isEmpty_iff_length_eq_zero, List.isEmpty_iff_length_eq_zero,
    length_eq_of_veil same]

end Bytes

namespace Ring

def veil (shown : Bool) (ring : Ring) : Ring := { ring with storage := ring.storage.veil shown }

@[simp] theorem veil_ofCapacity (shown : Bool) (capacity : Nat) :
    (ofCapacity capacity).veil shown = ofCapacity capacity := by
  cases shown <;> simp [veil, ofCapacity, Bytes.veil]

variable (shown : Bool) (ring : Ring)

@[simp] theorem size_veil : (ring.veil shown).size = ring.size := Bytes.length_veil shown ring.storage

@[simp] theorem storage_veil : (ring.veil shown).storage = ring.storage.veil shown := rfl

@[simp] theorem readAt_veil : (ring.veil shown).readAt = ring.readAt := rfl

@[simp] theorem writeAt_veil : (ring.veil shown).writeAt = ring.writeAt := rfl

@[simp] theorem advance_veil : (ring.veil shown).advance = ring.advance := by
  funext cursor steps
  simp [advance]

@[simp] theorem distance_veil : (ring.veil shown).distance = ring.distance := by
  funext start stop
  simp [distance]

@[simp] theorem length_veil : (ring.veil shown).length = ring.length :=
  congrFun (congrFun (distance_veil shown ring) ring.readAt) ring.writeAt

@[simp] theorem peeked_veil : (ring.veil shown).peeked = ring.peeked :=
  congrFun (congrFun (distance_veil shown ring) ring.readAt) ring.peekAt

@[simp] theorem isEmpty_veil : (ring.veil shown).isEmpty = ring.isEmpty := rfl

@[simp] theorem free_veil : (ring.veil shown).free = ring.free := by
  simp [free, capacity]

@[simp] theorem beforeWrap_veil : (ring.veil shown).beforeWrap = ring.beforeWrap := by
  funext cursor count
  simp [beforeWrap]

theorem sound_veil : (ring.veil shown).Sound ↔ ring.Sound := by
  have cells := size_veil shown ring
  have marked := peeked_veil shown ring
  have held := length_veil shown ring
  constructor
  · rintro ⟨readAt_lt, peekAt_lt, writeAt_lt, peeked_le⟩
    rw [cells] at readAt_lt peekAt_lt writeAt_lt
    rw [marked, held] at peeked_le
    exact ⟨readAt_lt, peekAt_lt, writeAt_lt, peeked_le⟩
  · rintro ⟨readAt_lt, peekAt_lt, writeAt_lt, peeked_le⟩
    rw [← cells] at readAt_lt peekAt_lt writeAt_lt
    rw [← marked, ← held] at peeked_le
    exact ⟨readAt_lt, peekAt_lt, writeAt_lt, peeked_le⟩

theorem veil_front (count : Nat) : (ring.front count).veil shown = (ring.veil shown).front count := by
  simp [front, Bytes.veil_append, Bytes.veil_slice]

theorem veil_contents : ring.contents.veil shown = (ring.veil shown).contents := by
  rw [contents, veil_front, contents, length_veil]

theorem veil_consume (count : Nat) :
    (ring.veil shown).consume count = ((ring.consume count).1, (ring.consume count).2.veil shown) := by
  simp [consume]
  rfl

theorem veil_put (source : Bytes) :
    (ring.veil shown).put (source.veil shown) =
      ((ring.put source).1, (ring.put source).2.veil shown) := by
  unfold put
  simp only [Bytes.length_veil, free_veil, beforeWrap_veil, advance_veil, writeAt_veil, storage_veil,
    ← Bytes.veil_slice, ← Bytes.veil_overwrite]
  split <;> rfl

theorem veil_peek {target other : Bytes} (lengths : target.length = other.length) :
    (ring.peek target).2.2.veil shown = ((ring.veil shown).peek other).2.2 := by
  unfold peek
  simp only [lengths, length_veil, advance_veil, readAt_veil]
  split <;> rfl

variable {shown : Bool} {one two : Ring}

theorem consume_of_veil (same : one.veil shown = two.veil shown) (count : Nat) :
    (one.consume count).1 = (two.consume count).1 ∧
      (one.consume count).2.veil shown = (two.consume count).2.veil shown := by
  have both := veil_consume shown one count
  rw [same, veil_consume, Prod.mk.injEq] at both
  exact ⟨both.1.symm, both.2.symm⟩

theorem Sound.put_of_veil (sound : one.Sound) (same : one.veil shown = two.veil shown)
    {source other : Bytes} (brought : source.veil shown = other.veil shown) {count : Nat} {next : Ring}
    (put : one.put source = (count, next)) :
    ∃ next', two.put other = (count, next') ∧ next.veil shown = next'.veil shown ∧ next.Sound := by
  have kept := sound.put source
  have both := veil_put shown one source
  rw [same, brought, veil_put, put, Prod.mk.injEq] at both
  rw [put] at kept
  exact ⟨(two.put other).2, Prod.ext both.1 rfl, both.2.symm, kept⟩

theorem length_of_veil (same : one.veil shown = two.veil shown) : one.length = two.length := by
  rw [← length_veil shown one, same, length_veil]

theorem isEmpty_of_veil (same : one.veil shown = two.veil shown) : one.isEmpty = two.isEmpty := by
  rw [← isEmpty_veil shown one, same, isEmpty_veil]

theorem Sound.of_veil (sound : one.Sound) (same : one.veil shown = two.veil shown) : two.Sound := by
  rw [← sound_veil shown, ← same, sound_veil]
  exact sound

-- What lies in the staging area before does not matter: all that is handed out comes from the store.
theorem Sound.peek_of_veil (sound : one.Sound) (same : one.veil shown = two.veil shown)
    {target other : Bytes} (lengths : target.length = other.length) {count : Nat} {staged : Bytes}
    {next : Ring} (peek : one.peek target = (count, staged, next)) :
    ∃ staged' next', two.peek other = (count, staged', next') ∧ staged.length = staged'.length ∧
      Bytes.veil shown (staged.take count) = Bytes.veil shown (staged'.take count) ∧
      next.veil shown = next'.veil shown ∧ next.Sound := by
  have peeked := sound.of_peek peek
  have peeked' := (sound.of_veil same).of_peek (Prod.eta (two.peek other)).symm
  have counts : (two.peek other).1 = count := by
    rw [peek_count, peeked.count_eq, lengths, length_of_veil same]
  have left : (one.peek target).2.2 = next := congrArg (·.2.2) peek
  refine ⟨(two.peek other).2.1, (two.peek other).2.2, Prod.ext counts rfl, ?_, ?_, ?_, peeked.sound⟩
  · rw [peeked.length_staged, peeked'.length_staged, lengths]
  · rw [peeked.take_staged, ← counts, peeked'.take_staged, Bytes.veil_take, Bytes.veil_take,
      veil_contents, veil_contents, same]
  · rw [← left, veil_peek shown one lengths, same, ← veil_peek shown two rfl]

end Ring

end SecureEcho
