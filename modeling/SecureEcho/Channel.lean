import SecureEcho.Basic
import SecureEcho.Readiness

namespace SecureEcho

-- What came of a read or a write. A read that moves no byte has met the end of the stream.
inductive Transfer where
  | progressed (count : Nat)
  | blocked (want : Direction)
  | failed (why : IoError)
deriving DecidableEq, Repr

inductive Closure where
  | finished
  | blocked (want : Direction)
deriving DecidableEq, Repr

-- A channel of type `C`. Reading is given a staging area and returns it as the read left it, so that
-- what a read does not fill stays what it was. A write that was blocked is to be tried again with
-- bytes that start with the same ones.
class Channel (C : Type) where
  read : C → Bytes → Transfer × Bytes × C
  write : C → Bytes → Transfer × C
  close : C → Closure × C

-- Closing comes to an end: `patience` bounds how often an attempt can still be blocked. Nothing is
-- said about reads and writes.
class Closable (C : Type) [Channel C] where
  patience : C → Nat
  patience_lt : ∀ {channel next : C} {want : Direction},
    Channel.close channel = (.blocked want, next) → patience next < patience channel

inductive Arrival where
  | data (bytes : Bytes)
  | blocked (want : Direction)
  | failed (why : IoError)
deriving DecidableEq, Repr

inductive Uptake where
  | all
  | atMost (count : Nat)
  -- Takes what there is of `count` bytes, and reports `count` whatever there was.
  | reports (count : Nat)
  | blocked (want : Direction)
  | failed (why : IoError)
deriving DecidableEq, Repr

structure Scripted where
  id : Nat := 0
  arrivals : List Arrival := []
  uptakes : List Uptake := []
  closeBlocks : List Direction := []
  reads : Nat := 0
  writes : Nat := 0
  closes : Nat := 0
  sent : Bytes := []
  closed : Bool := false
deriving DecidableEq, Repr

namespace Scripted

-- Data that does not fit the staging area stays for the next read; an empty script blocks.
def read (script : Scripted) (target : Bytes) : Transfer × Bytes × Scripted :=
  let called := { script with reads := script.reads + 1 }
  match script.arrivals with
  | [] => (.blocked .read, target, called)
  | .blocked want :: later => (.blocked want, target, { called with arrivals := later })
  | .failed why :: later => (.failed why, target, { called with arrivals := later })
  | .data bytes :: later =>
    let count := min bytes.length target.length
    let rest := bytes.drop count
    let arrivals := if rest.isEmpty then later else .data rest :: later
    (.progressed count, Bytes.overwrite target 0 (bytes.take count), { called with arrivals })

def write (script : Scripted) (offer : Bytes) : Transfer × Scripted :=
  let called := { script with writes := script.writes + 1, uptakes := script.uptakes.drop 1 }
  match script.uptakes.head?.getD .all with
  | .all => (.progressed offer.length, { called with sent := script.sent ++ offer })
  | .atMost count =>
    let taken := offer.take count
    (.progressed taken.length, { called with sent := script.sent ++ taken })
  | .reports count => (.progressed count, { called with sent := script.sent ++ offer.take count })
  | .blocked want => (.blocked want, called)
  | .failed why => (.failed why, called)

def close (script : Scripted) : Closure × Scripted :=
  let called := { script with closes := script.closes + 1 }
  match script.closeBlocks with
  | [] => (.finished, { called with closed := true })
  | want :: later => (.blocked want, { called with closeBlocks := later })

instance : Channel Scripted := ⟨read, write, close⟩

instance : Closable Scripted where
  patience script := script.closeBlocks.length
  patience_lt := by
    intro script next want blocked
    cases blocks : script.closeBlocks with
    | nil => simp [Channel.close, close, blocks] at blocked
    | cons first later =>
      have left : next.closeBlocks = later := by
        simpa [Channel.close, close, blocks] using (congrArg (·.2.closeBlocks) blocked).symm
      simp [left]

end Scripted

end SecureEcho
