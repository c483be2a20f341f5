import Mathlib.Data.Finset.Lattice.Fold
import Mathlib.Logic.Function.Iterate
import SecureEcho.Proofs.Registry.Alone
import SecureEcho.Proofs.Registry.Live

namespace SecureEcho

def Verdict.leaves {C : Type} (verdict : Verdict) (last : Slot C) : Option (Slot C) :=
  match verdict with
  | .keep => some last
  | .close => none

namespace Slot

variable {C : Type} [Channel C]

def onward (room : Nat) (place : Option (Slot C)) : Option (Slot C) :=
  place.bind fun slot => (slot.alone room).remains

theorem onward_of_idle {slot : Slot C} (idle : slot.isActionable = false) (room : Nat) :
    onward room (some slot) = some slot := by
  obtain ⟨alive, unmet⟩ := Bool.or_eq_false_iff.mp idle
  have same : slot.alone room = ⟨.keep, slot.connection, slot.ready, List.replicate room 0, []⟩ :=
    Connection.notify_eq_of_turned (.idle alive unmet)
  rw [onward, Option.bind_some, same]
  rfl

theorem Stageable.onward {slot : Slot C} (stageable : slot.Stageable) (scratch : Bytes) :
    onward scratch.length (some slot) = (slot.notify scratch).verdict.leaves (slot.notify scratch).slot ∧
      (slot.notify scratch).scratch.length = scratch.length := by
  obtain ⟨staged, sized, same⟩ := stageable.notify scratch
  rw [Slot.notify, same]
  exact ⟨rfl, sized⟩

-- So many notifications, whatever is in the staging area, and then the connection is closed or has
-- nothing left to do.
def Takes (room rounds : Nat) (slot : Slot C) : Prop :=
  ∀ scratch : Bytes, scratch.length = room → ∃ verdict last, Settles slot scratch rounds verdict last

section Exactly

variable (exactly : ∀ channel : C, Channel.FillsExactly channel)

include exactly

theorem Settles.restaged {slot last : Slot C} {scratch : Bytes} {rounds : Nat} {verdict : Verdict}
    (run : Settles slot scratch rounds verdict last) (sound : slot.connection.ring.Sound) {other : Bytes}
    (sized : other.length = scratch.length) : Settles slot other rounds verdict last := by
  induction run generalizing other with
  | rested idle => exact .rested idle
  | @ended slot scratch busy closed =>
    obtain ⟨staged, -, same⟩ := Connection.notify_restaged (exactly _) sound slot.ready sized
    have course : Settles slot other 1 .close (slot.notify other).slot := by
      refine .ended busy ?_
      rw [notify, same]
      exact closed
    rw [notify, same] at course
    exact course
  | @again slot last scratch rounds verdict busy kept later ih =>
    have turned := slot.connection.turned_notify slot.ready scratch
    obtain ⟨staged, length, same⟩ := Connection.notify_restaged (exactly _) sound slot.ready sized
    have left := (Stageable.onward ⟨exactly _, sound⟩ scratch).2
    refine .again busy ?_ ?_
    · rw [notify, same]
      exact kept
    · rw [notify, same]
      exact ih (turned.sound sound) (length.trans (sized.trans left.symm))

theorem Settles.iterate_onward {slot last : Slot C} {scratch : Bytes} {rounds : Nat} {verdict : Verdict}
    (run : Settles slot scratch rounds verdict last) (sound : slot.connection.ring.Sound) (count : Nat) :
    (((onward scratch.length)^[count] (some slot)).any isActionable = true ↔ count < rounds) ∧
      (rounds ≤ count → (onward scratch.length)^[count] (some slot) = verdict.leaves last) := by
  induction run generalizing count with
  | @rested slot scratch idle =>
    rw [Function.iterate_fixed (onward_of_idle idle _)]
    simp [idle, Verdict.leaves]
  | @ended slot scratch busy closed =>
    cases count with
    | zero => simp [busy]
    | succ count =>
      have gone := (Stageable.onward ⟨exactly _, sound⟩ scratch).1
      rw [closed] at gone
      rw [Function.iterate_succ_apply, gone, Verdict.leaves, Function.iterate_fixed rfl]
      simp
  | @again slot last scratch rounds verdict busy kept later ih =>
    cases count with
    | zero => simp [busy]
    | succ count =>
      have turned := slot.connection.turned_notify slot.ready scratch
      obtain ⟨next, sized⟩ := Stageable.onward ⟨exactly _, sound⟩ scratch
      have there := ih (turned.sound sound) count
      rw [kept] at next
      rw [sized] at there
      rw [Function.iterate_succ_apply, next, Verdict.leaves, Nat.add_lt_add_iff_right,
        Nat.add_le_add_iff_right]
      exact there

theorem Takes.busy_iff {slot : Slot C} {room rounds : Nat} (taken : slot.Takes room rounds)
    (sound : slot.connection.ring.Sound) (count : Nat) :
    ((onward room)^[count] (some slot)).any isActionable = true ↔ count < rounds := by
  obtain ⟨verdict, last, course⟩ := taken (List.replicate room 0) List.length_replicate
  have there := (course.iterate_onward exactly sound count).1
  rwa [List.length_replicate] at there

end Exactly

end Slot

namespace Registry

variable {C : Type} [Channel C] {registry : Registry C}

-- The most notifications that any connection of the table takes by itself, and zero for an empty table.
structure Longest (registry : Registry C) (room most : Nat) : Prop where
  enough : ∀ key slot, registry.get? key = some slot → ∃ rounds ≤ most, slot.Takes room rounds
  needed : most = 0 ∨ ∃ key slot, registry.get? key = some slot ∧ slot.Takes room most

theorem exists_longest {room bound : Nat}
    (inside : ∀ key slot, registry.get? key = some slot → key < bound)
    (takes : ∀ key slot, registry.get? key = some slot → ∃ rounds, slot.Takes room rounds) :
    ∃ most, registry.Longest room most := by
  have each : ∀ key, ∃ rounds, ∀ slot, registry.get? key = some slot → slot.Takes room rounds := by
    intro key
    cases found : registry.get? key with
    | none => exact ⟨0, fun slot there => nomatch there⟩
    | some slot =>
      obtain ⟨rounds, taken⟩ := takes key slot found
      refine ⟨rounds, fun other there => ?_⟩
      cases there
      exact taken
  choose rounds taken using each
  let occupied := (Finset.range bound).filter fun key => (registry.get? key).isSome
  refine ⟨occupied.sup rounds, ?_, ?_⟩
  · intro key slot found
    have member : key ∈ occupied :=
      Finset.mem_filter.mpr ⟨Finset.mem_range.mpr (inside key slot found), by rw [found]; rfl⟩
    exact ⟨rounds key, Finset.le_sup member, taken key slot found⟩
  · rcases occupied.eq_empty_or_nonempty with none | some
    · exact .inl (by rw [none, Finset.sup_empty]; rfl)
    · obtain ⟨key, member, same⟩ := Finset.exists_mem_eq_sup occupied some rounds
      obtain ⟨slot, found⟩ := Option.isSome_iff_exists.mp (Finset.mem_filter.mp member).2
      rw [same]
      exact .inr ⟨key, slot, found, taken key slot found⟩

theorem Longest.hasPending_iff {later : Registry C} {room most passed : Nat}
    (longest : registry.Longest room most) (exactly : ∀ channel : C, Channel.FillsExactly channel)
    (sound : ∀ key slot, registry.get? key = some slot → slot.connection.ring.Sound)
    (onward : ∀ key, later.get? key = (Slot.onward room)^[passed] (registry.get? key)) :
    later.hasPending = true ↔ passed < most := by
  rw [Registry.hasPending_iff]
  constructor
  · rintro ⟨key, slot, there, busy⟩
    have moved := onward key
    cases found : registry.get? key with
    | none =>
      rw [there, found, Function.iterate_fixed rfl] at moved
      cases moved
    | some first =>
      obtain ⟨rounds, few, taken⟩ := longest.enough key first found
      have still : ((Slot.onward room)^[passed] (some first)).any Slot.isActionable = true := by
        rw [← found, ← moved, there]
        exact busy
      have more := (taken.busy_iff exactly (sound key first found) passed).mp still
      omega
  · intro more
    rcases longest.needed with none | ⟨key, first, found, taken⟩
    · omega
    · have busy := (taken.busy_iff exactly (sound key first found) passed).mpr more
      rw [← found, ← onward key] at busy
      obtain ⟨slot, there, busy⟩ := (Option.any_eq_true _ _).mp busy
      exact ⟨key, slot, there, busy⟩

variable [Closable C]

theorem get?_serveAll (stageable : ∀ key slot, registry.get? key = some slot → slot.Stageable)
    (inside : ∀ key slot, registry.get? key = some slot → key < registry.limit) (scratch : Bytes)
    (farewell : Ended C → List Event) (key : Nat) :
    (registry.serveAll scratch farewell).registry.get? key =
      Slot.onward scratch.length (registry.get? key) := by
  have whole := halfway_serveBelow stageable scratch farewell registry.limit
  rcases Nat.lt_or_ge key registry.limit with below | above
  · exact whole.behind key below
  · have free : registry.get? key = none := by
      cases found : registry.get? key with
      | none => rfl
      | some slot => exact absurd (inside key slot found) (Nat.not_lt.mpr above)
    refine (whole.ahead key above).trans ?_
    rw [free]
    rfl

end Registry

def Operation.Serves {C : Type} (room : Nat) : Operation C → Prop
  | .serve scratch _ => scratch.length = room
  | .enroll _ | .report .. | .release _ => False

namespace Ledger

theorem get?_after_rounds {C : Type} [Channel C] [Closable C]
    (exactly : ∀ channel : C, Channel.FillsExactly channel) (limit bufferSize : Nat)
    (operations : List (Operation C)) {room : Nat} {rounds : List (Operation C)}
    (serve : ∀ round ∈ rounds, round.Serves room) (key : Nat) :
    (after limit bufferSize (operations ++ rounds)).registry.get? key =
      (Slot.onward room)^[rounds.length] ((after limit bufferSize operations).registry.get? key) := by
  induction rounds using List.reverseRecOn with
  | nil => rw [List.append_nil, List.length_nil, Function.iterate_zero_apply]
  | append_singleton earlier round ih =>
    have before := ih fun round member => serve round (List.mem_append_left _ member)
    have last := serve round (List.mem_append_right _ (List.mem_singleton.mpr rfl))
    have regulated := regulated_after limit bufferSize (operations ++ earlier)
    have sound := (reached_after limit bufferSize (operations ++ earlier)).ringsSound
    rw [← List.append_assoc, after_concat, List.length_append, List.length_singleton,
      Function.iterate_succ_apply', ← before]
    cases round with
    | serve scratch farewell =>
      obtain rfl : scratch.length = room := last
      refine Registry.get?_serveAll ?_ ?_ scratch farewell key
      · exact fun key slot found => ⟨(exactly _).recorded, sound key slot found⟩
      · intro key slot found
        rw [regulated.limit_eq]
        exact regulated.lt_limit found
    | enroll | report | release => cases last

-- Let a run over scripts be followed by services only. Then something is pending for exactly as many
-- services as the connection takes that has furthest to go by itself. Each connection goes on as if it
-- were alone, one notification a service, and is at rest or gone when its own course is over.
theorem pending_until_longest_course_is_over (limit bufferSize room : Nat)
    (operations : List (Operation Scripted))
    (plain : ∀ script, .enroll script ∈ operations → script.Plain) :
    let before := (after limit bufferSize operations).registry
    ∃ most, before.Longest room most ∧
      ∀ rounds : List (Operation Scripted), (∀ round ∈ rounds, round.Serves room) →
        let later := (after limit bufferSize (operations ++ rounds)).registry
        (later.hasPending = true ↔ rounds.length < most) ∧
          (∀ key, later.get? key = (Slot.onward room)^[rounds.length] (before.get? key)) ∧
          ∀ key slot, before.get? key = some slot →
            ∀ scratch count verdict last, scratch.length = room →
              slot.Settles scratch count verdict last →
              ((later.get? key).any Slot.isActionable = true ↔ rounds.length < count) ∧
                (count ≤ rounds.length → later.get? key = verdict.leaves last) := by
  intro before
  have exactly : ∀ record : Recorded Scripted, Channel.FillsExactly record :=
    fun record => (Scripted.fillsExactly record.channel).recorded
  have sound := (reached_after limit bufferSize operations).ringsSound
  have inside : ∀ key slot, before.get? key = some slot → key < limit :=
    fun key slot found => (regulated_after limit bufferSize operations).lt_limit found
  have takes : ∀ key slot, before.get? key = some slot → ∃ rounds, slot.Takes room rounds := by
    intro key slot found
    have playing := playing_after plain key slot found
    obtain ⟨rounds, verdict, last, course, -⟩ :=
      Slot.settles_of_playing playing (List.replicate room 0)
    refine ⟨rounds, fun scratch sized => ⟨verdict, last, ?_⟩⟩
    exact course.restaged exactly (sound key slot found) (by rw [sized, List.length_replicate])
  obtain ⟨most, longest⟩ := Registry.exists_longest inside takes
  refine ⟨most, longest, fun rounds serve => ?_⟩
  intro later
  have onward : ∀ key, later.get? key = (Slot.onward room)^[rounds.length] (before.get? key) :=
    get?_after_rounds Scripted.fillsExactly limit bufferSize operations serve
  refine ⟨longest.hasPending_iff exactly sound onward, onward, ?_⟩
  intro key slot found scratch count verdict last sized course
  subst sized
  rw [onward, found]
  exact course.iterate_onward exactly (sound key slot found) rounds.length

-- The first connection has two pieces to read and to send back and then waits for more, the second is
-- hung up on, the third meets the end of its stream, and the last has nothing to do.
theorem pending_until_first_of_four_is_over :
    let serve : Operation Scripted := .serve [0, 0] fun _ => []
    let operations : List (Operation Scripted) :=
      [.enroll { arrivals := [.data [1, 2, 3]] }, .enroll {}, .enroll { arrivals := [.data []] }, .enroll {},
        .report 0 ⟨true, true, false⟩, .report 1 .onHangup, .report 2 ⟨true, false, false⟩]
    (∀ script, .enroll script ∈ operations → script.Plain) ∧
      (after 5 4 operations).registry.Longest 2 5 ∧
      (after 5 4 (operations ++ List.replicate 4 serve)).registry.hasPending = true ∧
      (after 5 4 (operations ++ List.replicate 5 serve)).registry.hasPending = false := by
  intro serve operations
  have plain : ∀ script, .enroll script ∈ operations → script.Plain := by
    simp [operations, Scripted.Plain]
  have serves : ∀ count, ∀ round ∈ List.replicate count serve, round.Serves 2 := by
    intro count round member
    rw [List.eq_of_mem_replicate member]
    rfl
  have pending : (after 5 4 (operations ++ List.replicate 4 serve)).registry.hasPending = true := by
    decide +kernel
  have calm : (after 5 4 (operations ++ List.replicate 5 serve)).registry.hasPending = false := by
    decide +kernel
  obtain ⟨most, longest, passes⟩ := pending_until_longest_course_is_over 5 4 2 operations plain
  have more : 4 < most := (passes _ (serves 4)).1.mp pending
  have few : ¬ 5 < most := fun more =>
    Bool.false_ne_true (calm.symm.trans ((passes _ (serves 5)).1.mpr more))
  obtain rfl : most = 5 := by omega
  exact ⟨plain, longest, pending, calm⟩

end Ledger

end SecureEcho
