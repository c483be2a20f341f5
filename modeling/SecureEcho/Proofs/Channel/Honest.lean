import SecureEcho.Channel
import SecureEcho.Proofs.Channel.Record

namespace SecureEcho

-- Of these channels, a read reports no more than its staging area holds and leaves that as long as it
-- was, and a write reports no more than it was offered.
structure Channel.Honest {C : Type} [Channel C] (Good : C → Prop) : Prop where
  read : ∀ {channel next : C} {target filled : Bytes} {outcome : Transfer}, Good channel →
    Channel.read channel target = (outcome, filled, next) →
      Good next ∧ filled.length = target.length ∧
        ∀ count, outcome = .progressed count → count ≤ target.length
  write : ∀ {channel next : C} {offer : Bytes} {outcome : Transfer}, Good channel →
    Channel.write channel offer = (outcome, next) →
      Good next ∧ ∀ count, outcome = .progressed count → count ≤ offer.length

-- The same, asked of staging areas of one length only: a connection that is always given such a one
-- never gets to know how its channel treats others.
structure Channel.HonestWithin {C : Type} [Channel C] (room : Nat) (Good : C → Prop) : Prop where
  read : ∀ {channel next : C} {target filled : Bytes} {outcome : Transfer}, target.length = room →
    Good channel → Channel.read channel target = (outcome, filled, next) →
      Good next ∧ filled.length = room ∧ ∀ count, outcome = .progressed count → count ≤ room
  write : ∀ {channel next : C} {offer : Bytes} {outcome : Transfer}, Good channel →
    Channel.write channel offer = (outcome, next) →
      Good next ∧ ∀ count, outcome = .progressed count → count ≤ offer.length

namespace Channel

variable {C : Type} [Channel C] {Good : C → Prop}

theorem Honest.within (honest : Honest Good) (room : Nat) : HonestWithin room Good where
  read := by
    intro channel next target filled outcome sized good answer
    subst sized
    exact honest.read good answer
  write := honest.write

theorem HonestWithin.recorded {room : Nat} (honest : HonestWithin room Good) :
    HonestWithin room fun record : Recorded C => Good record.channel where
  read := by
    intro record next target filled outcome sized good answer
    obtain ⟨channel, inner, rfl⟩ := Recorded.of_read answer
    exact honest.read sized good inner
  write := by
    intro record next offer outcome good answer
    obtain ⟨channel, inner, rfl⟩ := Recorded.of_write answer
    exact honest.write good inner

end Channel

namespace Scripted

-- A script without a write that reports a count of its own.
def Plain (script : Scripted) : Prop := ∀ count, Uptake.reports count ∉ script.uptakes

theorem honest_plain : Channel.Honest Plain where
  read := by
    intro script next target filled outcome plain answer
    replace answer : script.read target = (outcome, filled, next) := answer
    unfold Scripted.read at answer
    split at answer
    all_goals cases answer
    · exact ⟨plain, rfl, by simp⟩
    · exact ⟨plain, rfl, by simp⟩
    · exact ⟨plain, rfl, by simp⟩
    · rename_i bytes later arrivals
      refine ⟨plain, Bytes.length_overwrite _ _ _ (by rw [List.length_take]; omega), ?_⟩
      intro count same
      cases same
      exact Nat.min_le_right _ _
  write := by
    intro script next offer outcome plain answer
    replace answer : script.write offer = (outcome, next) := answer
    have later : ∀ count, Uptake.reports count ∉ script.uptakes.drop 1 :=
      fun count member => plain count (List.mem_of_mem_drop member)
    have first : ∀ count, script.uptakes.head?.getD .all ≠ .reports count := by
      intro count same
      cases uptakes : script.uptakes with
      | nil => simp [uptakes] at same
      | cons head tail =>
        rw [uptakes] at same
        exact plain count (uptakes ▸ same ▸ List.mem_cons_self)
    unfold Scripted.write at answer
    cases taking : script.uptakes.head?.getD .all with
    | reports count => exact absurd taking (first count)
    | all =>
      simp only [taking] at answer
      cases answer
      exact ⟨later, fun count same => by cases same; exact Nat.le_refl _⟩
    | atMost count =>
      simp only [taking] at answer
      cases answer
      exact ⟨later, fun taken same => by cases same; exact List.length_take_le' _ _⟩
    | blocked want | failed why =>
      simp only [taking] at answer
      cases answer
      exact ⟨later, by simp⟩

end Scripted

end SecureEcho
