namespace SecureEcho

-- The socket condition that a blocked operation needs before it is worth another try.
inductive Direction where
  | read
  | write
deriving DecidableEq, Repr

def Direction.describe : Direction → String
  | .read => "Read"
  | .write => "Write"

structure Readiness where
  readable : Bool := false
  writable : Bool := false
  hangup : Bool := false
deriving DecidableEq, Repr

namespace Readiness

def empty : Readiness := {}

def ofDirection : Direction → Readiness
  | .read => { readable := true }
  | .write => { writable := true }

def onHangup : Readiness := { hangup := true }

def union (one two : Readiness) : Readiness :=
  ⟨one.readable || two.readable, one.writable || two.writable, one.hangup || two.hangup⟩

def without (one two : Readiness) : Readiness :=
  ⟨one.readable && !two.readable, one.writable && !two.writable, one.hangup && !two.hangup⟩

def covers (one two : Readiness) : Bool :=
  (one.readable || !two.readable) && (one.writable || !two.writable) && (one.hangup || !two.hangup)

def meets (one two : Readiness) : Bool :=
  one.readable && two.readable || one.writable && two.writable || one.hangup && two.hangup

def allows (ready : Readiness) : Direction → Bool
  | .read => ready.readable
  | .write => ready.writable

def waitingFor (direction : Direction) : Readiness := (ofDirection direction).union onHangup

-- The set as a number: one for readable, two for writable, four for hangup.
def code (ready : Readiness) : Nat :=
  ready.readable.toNat + 2 * ready.writable.toNat + 4 * ready.hangup.toNat

def describe (ready : Readiness) : String := s!"Readiness({ready.code})"

@[simp] theorem allows_union (one two : Readiness) (direction : Direction) :
    (one.union two).allows direction = (one.allows direction || two.allows direction) := by
  cases direction <;> rfl

@[simp] theorem hangup_union (one two : Readiness) :
    (one.union two).hangup = (one.hangup || two.hangup) := rfl

@[simp] theorem allows_ofDirection (one two : Direction) :
    (ofDirection one).allows two = decide (one = two) := by
  cases one <;> cases two <;> rfl

@[simp] theorem hangup_ofDirection (direction : Direction) : (ofDirection direction).hangup = false := by
  cases direction <;> rfl

theorem allows_without (one two : Readiness) (direction : Direction) :
    (one.without two).allows direction = (one.allows direction && !two.allows direction) := by
  cases direction <;> rfl

theorem hangup_without (one two : Readiness) :
    (one.without two).hangup = (one.hangup && !two.hangup) := rfl

theorem meets_waitingFor (ready : Readiness) (direction : Direction) :
    ready.meets (waitingFor direction) = (ready.allows direction || ready.hangup) := by
  cases direction <;> rcases ready with ⟨_ | _, _ | _, _ | _⟩ <;> rfl

theorem waitingFor_inj {one two : Direction} (same : waitingFor one = waitingFor two) : one = two := by
  cases one <;> cases two
  · rfl
  · exact absurd same (by decide)
  · exact absurd same (by decide)
  · rfl

end Readiness

end SecureEcho
