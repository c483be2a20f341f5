import SecureEcho.Proofs.Connection.Turn

namespace SecureEcho

namespace Slot

variable {C : Type}

def isActionable (slot : Slot C) : Bool := slot.connection.isActionable slot.ready

def bare (slot : Slot (Recorded C)) : Slot C := ⟨slot.connection.bare, slot.ready⟩

variable [Channel C]

def notify (slot : Slot C) (scratch : Bytes) : Turn C := slot.connection.notify slot.ready scratch

-- So many notifications, each of a connection that has something to do. The last one ends the
-- connection, or leaves it with nothing to do. Each finds the staging area as the one before left it.
inductive Settles : Slot C → Bytes → Nat → Verdict → Slot C → Prop where
  | rested {slot : Slot C} {scratch : Bytes} (idle : slot.isActionable = false) :
      Settles slot scratch 0 .keep slot
  | ended {slot : Slot C} {scratch : Bytes} (busy : slot.isActionable = true)
      (closed : (slot.notify scratch).verdict = .close) :
      Settles slot scratch 1 .close (slot.notify scratch).slot
  | again {slot last : Slot C} {scratch : Bytes} {rounds : Nat} {verdict : Verdict}
      (busy : slot.isActionable = true) (kept : (slot.notify scratch).verdict = .keep)
      (later : Settles (slot.notify scratch).slot (slot.notify scratch).scratch rounds verdict last) :
      Settles slot scratch (rounds + 1) verdict last

theorem Settles.unique {slot one two : Slot C} {scratch : Bytes} {oneRounds twoRounds : Nat}
    {oneVerdict twoVerdict : Verdict} (first : Settles slot scratch oneRounds oneVerdict one)
    (second : Settles slot scratch twoRounds twoVerdict two) :
    oneRounds = twoRounds ∧ oneVerdict = twoVerdict ∧ one = two := by
  induction first generalizing twoRounds twoVerdict two with
  | rested idle =>
    cases second with
    | rested => exact ⟨rfl, rfl, rfl⟩
    | ended busy | again busy =>
      rw [idle] at busy
      cases busy
  | ended busy closed =>
    cases second with
    | rested idle =>
      rw [busy] at idle
      cases idle
    | ended => exact ⟨rfl, rfl, rfl⟩
    | again busy kept =>
      rw [closed] at kept
      cases kept
  | again busy kept later ih =>
    cases second with
    | rested idle =>
      rw [busy] at idle
      cases idle
    | ended busy closed =>
      rw [kept] at closed
      cases closed
    | again busy kept later =>
      obtain ⟨rounds, verdict, last⟩ := ih later
      exact ⟨congrArg (· + 1) rounds, verdict, last⟩

-- The measure need not go down when there is nothing left to do.
theorem settles_within {Invariant : Slot C → Bytes → Prop} (work : Slot C → Nat)
    (step : ∀ slot scratch, Invariant slot scratch → slot.isActionable = true →
      (slot.notify scratch).verdict = .keep →
        Invariant (slot.notify scratch).slot (slot.notify scratch).scratch ∧
          ((slot.notify scratch).slot.isActionable = false ∨
            work (slot.notify scratch).slot < work slot))
    {slot : Slot C} {scratch : Bytes} (initially : Invariant slot scratch) :
    ∃ rounds verdict last, Settles slot scratch rounds verdict last ∧ rounds ≤ work slot + 1 := by
  induction amount : work slot using Nat.strongRecOn generalizing slot scratch with
  | ind amount ih =>
    cases busy : slot.isActionable with
    | false => exact ⟨0, .keep, slot, .rested busy, Nat.zero_le _⟩
    | true =>
      cases verdict : (slot.notify scratch).verdict with
      | close => exact ⟨1, .close, _, .ended busy verdict, by omega⟩
      | keep =>
        obtain ⟨still, idle | less⟩ := step slot scratch initially busy verdict
        · exact ⟨1, .keep, _, .again busy verdict (.rested idle), by omega⟩
        · obtain ⟨rounds, final, last, later, few⟩ := ih _ (amount ▸ less) still rfl
          exact ⟨rounds + 1, final, last, .again busy verdict later, by omega⟩

theorem Settles.rests {Invariant : Slot C → Bytes → Prop}
    (step : ∀ slot scratch, Invariant slot scratch →
      (slot.notify scratch).verdict = .keep ∧
        Invariant (slot.notify scratch).slot (slot.notify scratch).scratch)
    {slot last : Slot C} {scratch : Bytes} {rounds : Nat} {verdict : Verdict}
    (run : Settles slot scratch rounds verdict last) (initially : Invariant slot scratch) :
    verdict = .keep ∧ last.isActionable = false ∧ ∃ left, Invariant last left := by
  induction run with
  | @rested slot scratch idle => exact ⟨rfl, idle, scratch, initially⟩
  | @ended slot scratch busy closed =>
    rw [(step slot scratch initially).1] at closed
    cases closed
  | @again slot last scratch rounds verdict busy kept later ih => exact ih (step slot scratch initially).2

theorem Settles.bare {slot last : Slot (Recorded C)} {scratch : Bytes} {rounds : Nat} {verdict : Verdict}
    (run : Settles slot scratch rounds verdict last) :
    Settles slot.bare scratch rounds verdict last.bare := by
  have same : ∀ (slot : Slot (Recorded C)) (scratch : Bytes),
      slot.bare.notify scratch = (slot.notify scratch).bare :=
    fun slot scratch => slot.connection.bare_notify slot.ready scratch
  induction run with
  | rested idle => exact .rested idle
  | @ended slot scratch busy closed =>
    have course : Settles slot.bare scratch 1 .close (slot.bare.notify scratch).slot := by
      refine .ended busy ?_
      rw [same]
      exact closed
    rw [same] at course
    exact course
  | @again slot last scratch rounds verdict busy kept later ih =>
    refine .again busy ?_ ?_
    · rw [same]
      exact kept
    · rw [same]
      exact ih

end Slot

end SecureEcho
