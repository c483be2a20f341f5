import SecureEcho.Channel
import SecureEcho.Proofs.Channel.Record
import SecureEcho.Proofs.Ring.Contents

namespace SecureEcho

def Transfer.count : Transfer → Nat
  | .progressed count => count
  | _ => 0

namespace Channel

variable {C : Type} [Channel C]

-- What a read makes of any staging area of this size: it writes what it brings over the start, and
-- leaves the rest as it was.
structure Fills (channel : C) (room : Nat) (outcome : Transfer) (brought : Bytes) (next : C) : Prop where
  reported : brought.length = outcome.count
  inside : brought.length ≤ room
  answer : ∀ target, target.length = room →
    Channel.read channel target = (outcome, Bytes.overwrite target 0 brought, next)

def FillsExactly (channel : C) : Prop :=
  ∀ room, ∃ outcome brought next, Fills channel room outcome brought next

variable {room : Nat} {outcome : Transfer} {brought : Bytes}

theorem Fills.length_filled {channel next : C} (fills : Fills channel room outcome brought next)
    {target : Bytes} (sized : target.length = room) :
    (Bytes.overwrite target 0 brought).length = target.length := by
  refine Bytes.length_overwrite target brought 0 ?_
  rw [Nat.zero_add, sized]
  exact fills.inside

theorem Fills.take_filled {channel next : C} (fills : Fills channel room outcome brought next)
    (target : Bytes) : (Bytes.overwrite target 0 brought).take outcome.count = brought := by
  rw [← fills.reported]
  exact Bytes.take_overwrite target brought

theorem Fills.moved_filled {channel next : C} (fills : Fills channel room outcome brought next)
    (target : Bytes) : outcome.moved (Bytes.overwrite target 0 brought) = brought := by
  cases outcome with
  | progressed count => exact fills.take_filled target
  | blocked want | failed why => exact (List.length_eq_zero_iff.mp fills.reported).symm

theorem Fills.recorded {record : Recorded C} {next : C}
    (fills : Fills record.channel room outcome brought next) :
    Fills record room outcome brought (record.after next (.read room outcome brought)) where
  reported := fills.reported
  inside := fills.inside
  answer := by
    intro target sized
    simp only [Channel.read]
    rw [fills.answer target sized]
    dsimp only
    rw [fills.moved_filled, sized]

theorem FillsExactly.recorded {record : Recorded C} (exactly : FillsExactly record.channel) :
    FillsExactly record := by
  intro room
  obtain ⟨outcome, brought, next, fills⟩ := exactly room
  exact ⟨outcome, brought, _, fills.recorded⟩

theorem FillsExactly.restaged {channel next : C} (exactly : FillsExactly channel)
    {scratch filled other : Bytes} (answer : Channel.read channel scratch = (outcome, filled, next))
    (sized : other.length = scratch.length) :
    ∃ refilled, Channel.read channel other = (outcome, refilled, next) ∧
      refilled.length = other.length ∧ refilled.take outcome.count = filled.take outcome.count := by
  obtain ⟨outcome', brought, next', fills⟩ := exactly scratch.length
  rw [fills.answer scratch rfl] at answer
  cases answer
  refine ⟨_, fills.answer other sized, fills.length_filled sized, ?_⟩
  rw [fills.take_filled, fills.take_filled]

end Channel

theorem Scripted.fillsExactly (script : Scripted) : Channel.FillsExactly script := by
  intro room
  cases items : script.arrivals with
  | nil =>
    refine ⟨.blocked .read, [], { script with reads := script.reads + 1 }, rfl, Nat.zero_le _, ?_⟩
    intro target sized
    simp [Channel.read, read, items]
  | cons item later =>
    cases item with
    | data bytes =>
      obtain ⟨rest, rest_eq⟩ : ∃ rest, rest = bytes.drop (min bytes.length room) := ⟨_, rfl⟩
      refine ⟨.progressed (min bytes.length room), bytes.take (min bytes.length room),
        { script with
          reads := script.reads + 1
          arrivals := if rest.isEmpty then later else .data rest :: later }, ?_, ?_, ?_⟩
      · rw [List.length_take, Transfer.count]
        omega
      · rw [List.length_take]
        omega
      · intro target sized
        simp [Channel.read, read, items, sized, rest_eq]
    | blocked want =>
      refine ⟨.blocked want, [], { script with reads := script.reads + 1, arrivals := later }, rfl,
        Nat.zero_le _, ?_⟩
      intro target sized
      simp [Channel.read, read, items]
    | failed why =>
      refine ⟨.failed why, [], { script with reads := script.reads + 1, arrivals := later }, rfl,
        Nat.zero_le _, ?_⟩
      intro target sized
      simp [Channel.read, read, items]

end SecureEcho
