import SecureEcho.Channel
import SecureEcho.Proofs.Channel.Record
import SecureEcho.Proofs.Ring.Veil

namespace SecureEcho

def Call.veil (shown : Bool) : Call → Call
  | .read room outcome brought => .read room outcome (brought.veil shown)
  | .write offer outcome => .write (offer.veil shown) outcome
  | .close outcome => .close outcome

@[simp] theorem Call.veil_shown (call : Call) : call.veil true = call := by
  cases call <;> rfl

-- Channels related by `Like` give the same answers to calls that differ in unseen bytes only, and are
-- related again afterwards. What a read brings may differ where bytes are not shown, but not in
-- length, and does not depend on what the staging area held.
structure Channel.Lookalike {C : Type} [Channel C] (Like : Bool → C → C → Prop) : Prop where
  read : ∀ {shown : Bool} {one two next : C} {target other filled : Bytes} {outcome : Transfer},
    Like shown one two → target.length = other.length →
    Channel.read one target = (outcome, filled, next) →
      ∃ filled' next', Channel.read two other = (outcome, filled', next') ∧
        filled.length = filled'.length ∧
        (outcome.moved filled).veil shown = (outcome.moved filled').veil shown ∧
        Like shown next next'
  write : ∀ {shown : Bool} {one two next : C} {offer other : Bytes} {outcome : Transfer},
    Like shown one two → offer.veil shown = other.veil shown →
    Channel.write one offer = (outcome, next) →
      ∃ next', Channel.write two other = (outcome, next') ∧ Like shown next next'
  close : ∀ {shown : Bool} {one two next : C} {outcome : Closure}, Like shown one two →
    Channel.close one = (outcome, next) →
      ∃ next', Channel.close two = (outcome, next') ∧ Like shown next next'

-- `shown` tells of each channel, by its number, whether its bytes are seen.
namespace Recorded

variable {C : Type}

def veil (shown : Nat → Bool) (record : Recorded C) : Recorded Unit :=
  ⟨(), record.serial, record.calls.map (Call.veil (shown record.serial))⟩

structure Alike (shown : Nat → Bool) (Like : Bool → C → C → Prop) (one two : Recorded C) : Prop where
  veil_eq : one.veil shown = two.veil shown
  like : Like (shown one.serial) one.channel two.channel

variable {shown : Nat → Bool} {Like : Bool → C → C → Prop} {one two : Recorded C}

theorem Alike.serial_eq (alike : Alike shown Like one two) : one.serial = two.serial :=
  congrArg (fun record : Recorded Unit => record.serial) alike.veil_eq

theorem alike_new {one two : C} {serial : Nat} (like : Like (shown serial) one two) :
    Alike shown Like { channel := one, serial } { channel := two, serial } where
  veil_eq := rfl
  like := like

theorem Alike.after (alike : Alike shown Like one two) {next next' : C} {call call' : Call}
    (calls : call.veil (shown one.serial) = call'.veil (shown one.serial))
    (like : Like (shown one.serial) next next') :
    Alike shown Like (one.after next call) (two.after next' call') where
  veil_eq := by
    have before := congrArg (fun record : Recorded Unit => record.calls) alike.veil_eq
    have serial := alike.serial_eq
    unfold veil at before ⊢
    simp only [serial_after, calls_after, List.map_append, List.map_singleton]
    simp only [← serial] at before ⊢
    rw [before, calls]
  like := like

variable [Channel C]

theorem Alike.read (lookalike : Channel.Lookalike Like) (alike : Alike shown Like one two)
    {target other filled : Bytes} (lengths : target.length = other.length) {outcome : Transfer}
    {next : Recorded C} (answer : Channel.read one target = (outcome, filled, next)) :
    ∃ filled' next', Channel.read two other = (outcome, filled', next') ∧
      filled.length = filled'.length ∧
      (outcome.moved filled).veil (shown one.serial) = (outcome.moved filled').veil (shown one.serial) ∧
      Alike shown Like next next' ∧ next.serial = one.serial := by
  obtain ⟨channel, inner, rfl⟩ := Recorded.of_read answer
  obtain ⟨filled', channel', inner', same, brought, like⟩ := lookalike.read alike.like lengths inner
  refine ⟨filled', two.after channel' (.read other.length outcome (outcome.moved filled')), ?_, same,
    brought, alike.after ?_ like, rfl⟩
  · simp only [Channel.read, inner']
  · simp only [Call.veil, lengths, brought]

theorem Alike.write (lookalike : Channel.Lookalike Like) (alike : Alike shown Like one two)
    {offer other : Bytes} (offers : offer.veil (shown one.serial) = other.veil (shown one.serial))
    {outcome : Transfer} {next : Recorded C} (answer : Channel.write one offer = (outcome, next)) :
    ∃ next', Channel.write two other = (outcome, next') ∧ Alike shown Like next next' ∧
      next.serial = one.serial := by
  obtain ⟨channel, inner, rfl⟩ := Recorded.of_write answer
  obtain ⟨channel', inner', like⟩ := lookalike.write alike.like offers inner
  refine ⟨two.after channel' (.write other outcome), ?_, alike.after ?_ like, rfl⟩
  · simp only [Channel.write, inner']
  · simp only [Call.veil, offers]

theorem Alike.close (lookalike : Channel.Lookalike Like) (alike : Alike shown Like one two)
    {outcome : Closure} {next : Recorded C} (answer : Channel.close one = (outcome, next)) :
    ∃ next', Channel.close two = (outcome, next') ∧ Alike shown Like next next' := by
  obtain ⟨channel, inner, rfl⟩ := Recorded.of_close answer
  obtain ⟨channel', inner', like⟩ := lookalike.close alike.like inner
  refine ⟨two.after channel' (.close outcome), ?_, alike.after rfl like⟩
  simp only [Channel.close, inner']

end Recorded

namespace Arrival

def veil (shown : Bool) : Arrival → Arrival
  | data bytes => data (bytes.veil shown)
  | blocked want => blocked want
  | failed why => failed why

variable {shown : Bool} {arrival : Arrival}

theorem of_veil_data {bytes : Bytes} (same : arrival.veil shown = veil shown (data bytes)) :
    ∃ bytes', arrival = data bytes' ∧ bytes.veil shown = bytes'.veil shown := by
  cases arrival with
  | data bytes' => exact ⟨bytes', rfl, (data.inj same).symm⟩
  | blocked want | failed why => cases same

theorem of_veil_blocked {want : Direction} (same : arrival.veil shown = veil shown (blocked want)) :
    arrival = blocked want := by
  cases arrival with
  | blocked want' => exact same
  | data bytes | failed why => cases same

theorem of_veil_failed {why : IoError} (same : arrival.veil shown = veil shown (failed why)) :
    arrival = failed why := by
  cases arrival with
  | failed why' => exact same
  | data bytes | blocked want => cases same

end Arrival

namespace Bytes

variable {shown : Bool} {bytes bytes' : Bytes} {count : Nat}

theorem length_overwrite_take {target : Bytes} (fits : count ≤ target.length) :
    (overwrite target 0 (bytes.take count)).length = target.length := by
  refine length_overwrite _ _ _ ?_
  rw [Nat.zero_add, List.length_take]
  exact (Nat.min_le_left ..).trans fits

theorem veil_take_overwrite (alike : bytes.veil shown = bytes'.veil shown)
    (inside : count ≤ bytes.length) (target other : Bytes) :
    veil shown ((overwrite target 0 (bytes.take count)).take count) =
      veil shown ((overwrite other 0 (bytes'.take count)).take count) := by
  have patch : (bytes.take count).length = count := List.length_take_of_le inside
  have patch' : (bytes'.take count).length = count :=
    List.length_take_of_le (length_eq_of_veil alike ▸ inside)
  have copied := take_overwrite target (bytes.take count)
  have copied' := take_overwrite other (bytes'.take count)
  rw [patch] at copied
  rw [patch'] at copied'
  rw [copied, copied', veil_take, veil_take, alike]

end Bytes

namespace Scripted

structure Lookalike (shown : Bool) (one two : Scripted) : Prop where
  arrivals : two.arrivals.map (Arrival.veil shown) = one.arrivals.map (Arrival.veil shown)
  uptakes : two.uptakes = one.uptakes
  closeBlocks : two.closeBlocks = one.closeBlocks

variable {shown : Bool} {one two next : Scripted}

theorem Lookalike.read (like : Lookalike shown one two) {target other filled : Bytes}
    {outcome : Transfer} (lengths : target.length = other.length)
    (answer : one.read target = (outcome, filled, next)) :
    ∃ filled' next', two.read other = (outcome, filled', next') ∧ filled.length = filled'.length ∧
      (outcome.moved filled).veil shown = (outcome.moved filled').veil shown ∧
      Lookalike shown next next' := by
  obtain ⟨arrivals, uptakes, closeBlocks⟩ := like
  unfold Scripted.read at answer ⊢
  cases first : one.arrivals with
  | nil =>
    have second : two.arrivals = [] := by simpa [first] using arrivals
    simp only [first] at answer
    cases answer
    simp only [second]
    exact ⟨_, _, rfl, lengths, rfl, rfl, uptakes, closeBlocks⟩
  | cons arrival later =>
    rw [first] at arrivals
    obtain ⟨arrival', later', second, same, rest⟩ := List.map_eq_cons_iff.mp arrivals
    simp only [first] at answer
    cases arrival with
    | blocked want =>
      cases Arrival.of_veil_blocked same
      cases answer
      simp only [second]
      exact ⟨_, _, rfl, lengths, rfl, rest, uptakes, closeBlocks⟩
    | failed why =>
      cases Arrival.of_veil_failed same
      cases answer
      simp only [second]
      exact ⟨_, _, rfl, lengths, rfl, rest, uptakes, closeBlocks⟩
    | data bytes =>
      obtain ⟨bytes', rfl, alike⟩ := Arrival.of_veil_data same
      have long := Bytes.length_eq_of_veil alike
      have inside := Nat.min_le_left bytes.length target.length
      have fits := Nat.min_le_right bytes.length target.length
      simp only at answer
      simp only [second, ← long, ← lengths]
      generalize min bytes.length target.length = count at inside fits answer ⊢
      cases answer
      have left := congrArg (List.drop count) alike
      rw [← Bytes.veil_drop, ← Bytes.veil_drop] at left
      refine ⟨_, _, rfl, ?_, Bytes.veil_take_overwrite alike inside target other, ?_, uptakes,
        closeBlocks⟩
      · rw [Bytes.length_overwrite_take fits, Bytes.length_overwrite_take (lengths ▸ fits), lengths]
      · rw [Bytes.isEmpty_of_veil left]
        split
        · exact rest
        · simp only [List.map_cons, Arrival.veil, rest, left]

theorem Lookalike.write (like : Lookalike shown one two) {offer other : Bytes} {outcome : Transfer}
    (offers : offer.veil shown = other.veil shown) (answer : one.write offer = (outcome, next)) :
    ∃ next', two.write other = (outcome, next') ∧ Lookalike shown next next' := by
  obtain ⟨arrivals, uptakes, closeBlocks⟩ := like
  have long := Bytes.length_eq_of_veil offers
  unfold Scripted.write at answer ⊢
  simp only [uptakes]
  cases taking : one.uptakes.head?.getD .all with
  | all | atMost count =>
    simp only [taking] at answer
    cases answer
    simp only [List.length_take, long]
    exact ⟨_, rfl, arrivals, rfl, closeBlocks⟩
  | reports count | blocked want | failed why =>
    simp only [taking] at answer
    cases answer
    exact ⟨_, rfl, arrivals, rfl, closeBlocks⟩

theorem Lookalike.close (like : Lookalike shown one two) {outcome : Closure}
    (answer : one.close = (outcome, next)) :
    ∃ next', two.close = (outcome, next') ∧ Lookalike shown next next' := by
  obtain ⟨arrivals, uptakes, closeBlocks⟩ := like
  unfold Scripted.close at answer ⊢
  rw [closeBlocks]
  cases blocks : one.closeBlocks with
  | nil =>
    simp only [blocks] at answer
    cases answer
    exact ⟨_, rfl, arrivals, uptakes, rfl⟩
  | cons want later =>
    simp only [blocks] at answer
    cases answer
    exact ⟨_, rfl, arrivals, uptakes, rfl⟩

theorem lookalike_scripted : Channel.Lookalike Lookalike where
  read like lengths answer := like.read lengths answer
  write like offers answer := like.write offers answer
  close like answer := like.close answer

end Scripted

end SecureEcho
