import Mathlib.Data.List.Basic
import SecureEcho.Proofs.Channel.Erasure
import SecureEcho.Proofs.Channel.Invariant
import SecureEcho.Session

namespace SecureEcho

inductive Purpose where
  | text (bytes : Bytes)
  | ending
  -- What the two sides settle between them, which may take no bytes at all.
  | upkeep
deriving DecidableEq, Repr

structure Sealed where
  purpose : Purpose
  encoding : Bytes
deriving DecidableEq, Repr

-- Records wait in one queue: the socket takes from its front, and all else adds at its end.
structure Session.Queues (S : Type) [Session S] : Prop where
  drain : ∀ (session : S) count,
    Session.output (Session.drain session count) = (Session.output session).drop count
  feed : ∀ (session : S) bytes,
    Session.output session <+: Session.output (Session.feed session bytes)
  digest : ∀ session : S, Session.output session <+: Session.output (Session.digest session).2
  deliver : ∀ (session : S) room,
    Session.output session <+: Session.output (Session.deliver session room).2
  accept : ∀ (session : S) bytes,
    Session.output session <+: Session.output (Session.accept session bytes).2
  announceEnd : ∀ session : S, Session.output session <+: Session.output (Session.announceEnd session)

theorem ClearSession.queues : Session.Queues ClearSession where
  drain _ _ := rfl
  feed _ _ := List.prefix_rfl
  digest := by
    intro session
    show session.output <+: session.digest.2.output
    unfold digest
    dsimp only
    split <;> exact List.prefix_rfl
  deliver := by
    intro session room
    show session.output <+: (session.deliver room).2.output
    unfold deliver
    repeat' split
    all_goals exact List.prefix_rfl
  accept _ _ := List.prefix_append _ _
  announceEnd _ := List.prefix_append _ _

namespace Socket

theorem sent_write_of_done {socket : Socket} {offer : Bytes} {count : Nat}
    (took : (socket.write offer).1 = .done count) :
    (socket.write offer).2.sent = socket.sent ++ offer.take count := by
  unfold write at took ⊢
  cases answer : socket.room.head?.getD (.failed (.ofOs .connectionReset)) with
  | done most =>
    simp only [answer, Attempt.done.injEq] at took ⊢
    rw [← took, List.length_take]
    exact congrArg (socket.sent ++ ·) List.take_eq_take_min
  | blocked | interrupted | failed why =>
    simp only [answer] at took
    cases took

theorem sent_write_of_stalled {socket : Socket} {offer : Bytes}
    (stalled : ∀ count, (socket.write offer).1 ≠ .done count) :
    (socket.write offer).2.sent = socket.sent := by
  unfold write at stalled ⊢
  cases answer : socket.room.head?.getD (.failed (.ofOs .connectionReset)) with
  | done most =>
    simp only [answer] at stalled
    exact absurd rfl (stalled _)
  | blocked | interrupted | failed why => rfl

@[simp] theorem isShutDown_write (socket : Socket) (offer : Bytes) :
    (socket.write offer).2.isShutDown = socket.isShutDown := by
  unfold write
  dsimp only
  split <;> rfl

end Socket

structure Sealing (S : Type) where
  session : S
  records : List Sealed
deriving DecidableEq, Repr

namespace Sealing

variable {S : Type} [Session S]

def note (sealing : Sealing S) (purpose : Purpose) (later : S) : Sealing S :=
  { session := later
    records := sealing.records ++
      [⟨purpose, (Session.output later).drop (Session.output sealing.session).length⟩] }

instance : Session (Sealing S) where
  output sealing := Session.output sealing.session
  drain sealing count := { sealing with session := Session.drain sealing.session count }
  intake sealing := Session.intake sealing.session
  feed sealing bytes := sealing.note .upkeep (Session.feed sealing.session bytes)
  digest sealing :=
    let (fault, session) := Session.digest sealing.session
    (fault, sealing.note .upkeep session)
  deliver sealing room :=
    let (delivery, session) := Session.deliver sealing.session room
    (delivery, sealing.note .upkeep session)
  accept sealing bytes :=
    match Session.accept sealing.session bytes with
    | (.ok count, session) => (.ok count, sealing.note (.text (bytes.take count)) session)
    | (.error why, session) => (.error why, sealing.note .upkeep session)
  announceEnd sealing := sealing.note .ending (Session.announceEnd sealing.session)

theorem erases_session : Session.Erases (Sealing.session : Sealing S → S) where
  output _ := rfl
  drain _ _ := rfl
  intake _ := rfl
  feed _ _ := rfl
  digest _ := rfl
  deliver _ _ := rfl
  accept := by
    intro sealing bytes
    rcases answer : Session.accept sealing.session bytes with ⟨_ | count, later⟩
    all_goals simp [Session.accept, answer, note]
  announceEnd _ := rfl

def Carried (sealing : Sealing S) (socket : Socket) : Prop :=
  sealing.records.flatMap Sealed.encoding = socket.sent ++ Session.output sealing.session

theorem Carried.note {sealing : Sealing S} {socket : Socket} (carried : sealing.Carried socket)
    (purpose : Purpose) {later : S}
    (grown : Session.output sealing.session <+: Session.output later) :
    (sealing.note purpose later).Carried socket := by
  obtain ⟨more, grown⟩ := grown
  have waiting : Session.output sealing = Session.output sealing.session := rfl
  unfold Carried at carried ⊢
  show (sealing.records ++ [_]).flatMap Sealed.encoding = socket.sent ++ Session.output later
  rw [List.flatMap_append, carried, ← grown]
  simp

theorem conveys_carried (queues : Session.Queues S) :
    Session.Conveys (Carried : Sealing S → Socket → Prop) where
  sent := by
    intro sealing socket count took carried
    have left : Session.output (Session.drain sealing.session count) =
        (Session.output sealing.session).drop count := queues.drain sealing.session count
    unfold Carried at carried ⊢
    show sealing.records.flatMap Sealed.encoding =
      _ ++ Session.output (Session.drain sealing.session count)
    rw [Socket.sent_write_of_done took, left, carried, List.append_assoc]
    exact congrArg (socket.sent ++ ·) (List.take_append_drop count _).symm
  unsent := by
    intro sealing socket stalled carried
    unfold Carried
    rw [Socket.sent_write_of_stalled stalled]
    exact carried
  received carried := carried
  feed bytes carried := carried.note .upkeep (queues.feed _ bytes)
  digest carried := carried.note .upkeep (queues.digest _)

structure Underway (sealing : Sealing S) (socket : Socket) : Prop where
  carried : sealing.Carried socket
  unended : ∀ record ∈ sealing.records, record.purpose ≠ .ending
  unshut : socket.isShutDown = false

theorem Underway.note {sealing : Sealing S} {socket : Socket} (underway : sealing.Underway socket)
    {purpose : Purpose} (other : purpose ≠ .ending) {later : S}
    (grown : Session.output sealing.session <+: Session.output later) :
    (sealing.note purpose later).Underway socket := by
  refine ⟨underway.carried.note purpose grown, ?_, underway.unshut⟩
  intro record member
  rcases List.mem_append.mp member with old | new
  · exact underway.unended record old
  · rw [List.mem_singleton.mp new]
    exact other

theorem conveys_underway (queues : Session.Queues S) :
    Session.Conveys (Underway : Sealing S → Socket → Prop) where
  sent took underway :=
    ⟨(conveys_carried queues).sent took underway.carried, underway.unended,
      (Socket.isShutDown_write _ _).trans underway.unshut⟩
  unsent stalled underway :=
    ⟨(conveys_carried queues).unsent stalled underway.carried, underway.unended,
      (Socket.isShutDown_write _ _).trans underway.unshut⟩
  received underway := ⟨underway.carried, underway.unended, underway.unshut⟩
  feed bytes underway := underway.note (by simp) (queues.feed _ bytes)
  digest underway := underway.note (by simp) (queues.digest _)

theorem Underway.deliver (queues : Session.Queues S) (sealing : Sealing S) (socket : Socket) (room : Nat)
    (underway : sealing.Underway socket) : (Session.deliver sealing room).2.Underway socket :=
  underway.note (by simp) (queues.deliver sealing.session room)

theorem Underway.accept (queues : Session.Queues S) (sealing : Sealing S) (socket : Socket)
    (bytes : Bytes) (underway : sealing.Underway socket) :
    (Session.accept sealing bytes).2.Underway socket := by
  have grown := queues.accept sealing.session bytes
  rcases answer : Session.accept sealing.session bytes with ⟨_ | count, later⟩
  all_goals
    simp only [Session.accept, answer] at grown ⊢
    exact underway.note (by simp) grown

end Sealing

namespace SecureChannel

variable {S : Type} [Session S]

@[simp] theorem endAnnounced_read (channel : SecureChannel S) (target : Bytes) :
    (channel.read target).2.2.endAnnounced = channel.endAnnounced := by
  fun_induction read channel target with
  | case7 _ _ _ _ _ _ _ _ _ again => exact again
  | case1 | case2 | case3 | case4 | case5 | case6 | case8 | case9 | case10 | case11 => rfl

@[simp] theorem endAnnounced_write (channel : SecureChannel S) (offer : Bytes) :
    (channel.write offer).2.endAnnounced = channel.endAnnounced := by
  unfold write confirm
  repeat' split
  all_goals rfl

def Underway (channel : SecureChannel (Sealing S)) : Prop :=
  channel.session.Underway channel.socket ∧ channel.endAnnounced = false

theorem underway_ask (queues : Session.Queues S) {record : Recorded (SecureChannel (Sealing S))}
    {request : Request} (unclosed : request ≠ .close) (underway : record.channel.Underway) :
    (record.ask request).channel.Underway := by
  have conveys := Sealing.conveys_underway queues
  obtain ⟨underway, going⟩ := underway
  cases request with
  | close => exact absurd rfl unclosed
  | read target =>
    exact ⟨conveyed_read conveys (Sealing.Underway.deliver queues) record.channel target underway,
      (endAnnounced_read record.channel target).trans going⟩
  | write offer =>
    exact ⟨conveyed_of_write conveys (Sealing.Underway.accept queues)
      (show record.channel.write offer = (_, (record.ask (.write offer)).channel) from rfl) underway,
      (endAnnounced_write record.channel offer).trans going⟩

theorem underway_serve (queues : Session.Queues S) {requests : List Request} (unclosed : .close ∉ requests)
    {record : Recorded (SecureChannel (Sealing S))} (underway : record.channel.Underway) :
    (record.serve requests).channel.Underway := by
  induction requests generalizing record with
  | nil => exact underway
  | cons request later ih =>
    rw [List.mem_cons, not_or] at unclosed
    obtain ⟨first, rest⟩ := unclosed
    exact ih rest (underway_ask queues (Ne.symm first) underway)

-- Of the records made before, no more is known than that they are sent or wait.
def sealing (channel : SecureChannel S) : SecureChannel (Sealing S) :=
  channel.map fun session => ⟨session, [⟨.upkeep, channel.socket.sent ++ Session.output session⟩]⟩

theorem underway_sealing {channel : SecureChannel S} (going : channel.endAnnounced = false)
    (unshut : channel.socket.isShutDown = false) : channel.sealing.Underway := by
  refine ⟨⟨?_, ?_, unshut⟩, going⟩
  · show [_].flatMap Sealed.encoding = _
    simp [sealing, map]
  · intro record member
    rw [List.mem_singleton.mp member]
    simp

def sealedBy (channel : SecureChannel S) (requests : List Request) : List Sealed :=
  (Recorded.serve { channel := channel.sealing } requests).channel.session.records

end SecureChannel

end SecureEcho
