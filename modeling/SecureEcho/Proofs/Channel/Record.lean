import Mathlib.Data.List.Basic
import SecureEcho.Channel

namespace SecureEcho

def Transfer.moved (bytes : Bytes) : Transfer → Bytes
  | .progressed count => bytes.take count
  | _ => []

@[simp] theorem Transfer.moved_progressed (bytes : Bytes) (count : Nat) :
    (Transfer.progressed count).moved bytes = bytes.take count := rfl

@[simp] theorem Transfer.moved_blocked (bytes : Bytes) (want : Direction) :
    (Transfer.blocked want).moved bytes = [] := rfl

@[simp] theorem Transfer.moved_failed (bytes : Bytes) (why : IoError) :
    (Transfer.failed why).moved bytes = [] := rfl

inductive Call where
  | read (room : Nat) (outcome : Transfer) (brought : Bytes)
  | write (offer : Bytes) (outcome : Transfer)
  | close (outcome : Closure)
deriving DecidableEq, Repr

namespace Call

def delivered : Call → Bytes
  | .read _ _ brought => brought
  | _ => []

def transmitted : Call → Bytes
  | .write offer outcome => outcome.moved offer
  | _ => []

@[simp] theorem delivered_read (room : Nat) (outcome : Transfer) (brought : Bytes) :
    (read room outcome brought).delivered = brought := rfl

@[simp] theorem delivered_write (offer : Bytes) (outcome : Transfer) :
    (write offer outcome).delivered = [] := rfl

@[simp] theorem transmitted_read (room : Nat) (outcome : Transfer) (brought : Bytes) :
    (read room outcome brought).transmitted = [] := rfl

@[simp] theorem transmitted_write (offer : Bytes) (outcome : Transfer) :
    (write offer outcome).transmitted = outcome.moved offer := rfl

def isClose : Call → Bool
  | .close _ => true
  | _ => false

def blockedOn (want : Direction) : Call → Bool
  | .read _ outcome _ | .write _ outcome => outcome = .blocked want
  | .close _ => false

end Call

-- `serial` tells channels apart, whatever they hold.
structure Recorded (C : Type) where
  channel : C
  serial : Nat := 0
  calls : List Call := []
deriving DecidableEq, Repr

inductive Request where
  | read (target : Bytes)
  | write (offer : Bytes)
  | close
deriving DecidableEq, Repr

namespace Recorded

variable {C : Type}

def delivered (record : Recorded C) : Bytes := record.calls.flatMap Call.delivered

def transmitted (record : Recorded C) : Bytes := record.calls.flatMap Call.transmitted

def WithinOffers (record : Recorded C) : Prop :=
  ∀ offer count, Call.write offer (.progressed count) ∈ record.calls → count ≤ offer.length

def after (record : Recorded C) (channel : C) (call : Call) : Recorded C :=
  { record with channel, calls := record.calls ++ [call] }

@[simp] theorem serial_after (record : Recorded C) (channel : C) (call : Call) :
    (record.after channel call).serial = record.serial := rfl

@[simp] theorem channel_after (record : Recorded C) (channel : C) (call : Call) :
    (record.after channel call).channel = channel := rfl

@[simp] theorem calls_after (record : Recorded C) (channel : C) (call : Call) :
    (record.after channel call).calls = record.calls ++ [call] := rfl

@[simp] theorem delivered_after (record : Recorded C) (channel : C) (call : Call) :
    (record.after channel call).delivered = record.delivered ++ call.delivered := by
  simp [delivered]

@[simp] theorem transmitted_after (record : Recorded C) (channel : C) (call : Call) :
    (record.after channel call).transmitted = record.transmitted ++ call.transmitted := by
  simp [transmitted]

theorem WithinOffers.after {record : Recorded C} (within : record.WithinOffers) {channel : C}
    {call : Call} (last : ∀ offer count, call = .write offer (.progressed count) → count ≤ offer.length) :
    (record.after channel call).WithinOffers := by
  intro offer count member
  rcases List.mem_append.mp member with old | new
  · exact within offer count old
  · exact last offer count (List.mem_singleton.mp new).symm

variable [Channel C]

instance : Channel (Recorded C) where
  read record target :=
    let (outcome, filled, channel) := Channel.read record.channel target
    (outcome, filled, record.after channel (.read target.length outcome (outcome.moved filled)))
  write record offer :=
    let (outcome, channel) := Channel.write record.channel offer
    (outcome, record.after channel (.write offer outcome))
  close record :=
    let (outcome, channel) := Channel.close record.channel
    (outcome, record.after channel (.close outcome))

instance [Closable C] : Closable (Recorded C) where
  patience record := Closable.patience record.channel
  patience_lt := by
    intro record next want blocked
    have inner : Channel.close record.channel = (.blocked want, next.channel) := by
      have outcome := congrArg Prod.fst blocked
      have channel := congrArg (·.2.channel) blocked
      exact Prod.ext outcome channel
    exact Closable.patience_lt inner

theorem of_read {record next : Recorded C} {target filled : Bytes} {outcome : Transfer}
    (answer : Channel.read record target = (outcome, filled, next)) :
    ∃ channel, Channel.read record.channel target = (outcome, filled, channel) ∧
      next = record.after channel (.read target.length outcome (outcome.moved filled)) := by
  cases answer
  exact ⟨_, rfl, rfl⟩

theorem of_write {record next : Recorded C} {offer : Bytes} {outcome : Transfer}
    (answer : Channel.write record offer = (outcome, next)) :
    ∃ channel, Channel.write record.channel offer = (outcome, channel) ∧
      next = record.after channel (.write offer outcome) := by
  cases answer
  exact ⟨_, rfl, rfl⟩

theorem of_close {record next : Recorded C} {outcome : Closure}
    (answer : Channel.close record = (outcome, next)) :
    ∃ channel, Channel.close record.channel = (outcome, channel) ∧
      next = record.after channel (.close outcome) := by
  cases answer
  exact ⟨_, rfl, rfl⟩

def ask (record : Recorded C) : Request → Recorded C
  | .read target => (Channel.read record target).2.2
  | .write offer => (Channel.write record offer).2
  | .close => (Channel.close record).2

def serve (record : Recorded C) (requests : List Request) : Recorded C := requests.foldl ask record

theorem serve_append (record : Recorded C) (requests more : List Request) :
    record.serve (requests ++ more) = (record.serve requests).serve more :=
  List.foldl_append

@[simp] theorem delivered_ask_read (record : Recorded C) (target : Bytes) :
    (record.ask (.read target)).delivered = record.delivered ++
      (Channel.read record.channel target).1.moved (Channel.read record.channel target).2.1 :=
  delivered_after record _ _

end Recorded

end SecureEcho
