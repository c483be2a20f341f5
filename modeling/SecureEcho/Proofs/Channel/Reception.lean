import SecureEcho.Proofs.Channel.Erasure
import SecureEcho.Proofs.Channel.Invariant
import SecureEcho.Proofs.Ring.Contents
import SecureEcho.Session

namespace SecureEcho

structure Inbox where
  held : Bytes := []
  announced : Bool := false
  ended : Bool := false
deriving DecidableEq, Repr

namespace Inbox

def isOver (inbox : Inbox) : Bool := inbox.announced || inbox.ended

-- What an answer to a reader who has room for so many bytes says about the inbox, and leaves of it.
def Yields (room : Nat) (before : Inbox) : Delivery → Inbox → Prop
  | .data bytes, after =>
    bytes ≠ [] ∧ bytes.length ≤ room ∧ before.held = bytes ++ after.held ∧
      after = { before with held := after.held }
  | .over, after => before.held = [] ∧ before.announced = true ∧ after = before
  | .cutOff, after =>
    before.held = [] ∧ before.announced = false ∧ before.ended = true ∧ after = before
  | .nothing, after => before.held = [] ∧ before.isOver = false ∧ after = before
  | .failed _, _ => False

theorem Yields.dry {room : Nat} {before after : Inbox} {answer : Delivery}
    (yields : before.Yields room answer after) (dry : ∀ bytes, answer ≠ .data bytes) :
    before.held = [] ∧ after = before ∧ (answer = .nothing ∨ before.isOver = true) := by
  cases answer with
  | data bytes => exact absurd rfl (dry bytes)
  | failed why => exact yields.elim
  | nothing =>
    obtain ⟨none, going, same⟩ := yields
    exact ⟨none, same, .inl rfl⟩
  | «over» =>
    obtain ⟨none, announced, same⟩ := yields
    exact ⟨none, same, .inr (by simp [isOver, announced])⟩
  | cutOff =>
    obtain ⟨none, silent, ended, same⟩ := yields
    exact ⟨none, same, .inr (by simp [isOver, ended])⟩

end Inbox

-- A session that deciphers in order: working on records adds to what is held, at its end, and only a
-- reader takes from it, at its front. Nothing is wanted from the socket only once the stream is over.
structure Session.Receives {S : Type} [Session S] (inbox : S → Inbox) : Prop where
  drain : ∀ session count, inbox (Session.drain session count) = inbox session
  intake : ∀ session, Session.intake session = .over → (inbox session).isOver = true
  feed : ∀ session bytes, inbox (Session.feed session bytes) =
    { inbox session with ended := (inbox session).ended || bytes.isEmpty }
  digest : ∀ session, ∃ more announced, inbox (Session.digest session).2 =
    { inbox session with
      held := (inbox session).held ++ more
      announced := (inbox session).announced || announced }
  deliver : ∀ {session later : S} {room : Nat} {answer : Delivery}, 0 < room →
    Session.deliver session room = (answer, later) → (inbox session).Yields room answer (inbox later)
  accept : ∀ session bytes, inbox (Session.accept session bytes).2 = inbox session
  announceEnd : ∀ session, inbox (Session.announceEnd session) = inbox session

namespace ClearSession

def inbox (session : ClearSession) : Inbox :=
  { held := session.plaintext, announced := session.peerIsOver, ended := session.streamEnded }

theorem inbox_digest (session : ClearSession) : ∃ more announced, session.digest.2.inbox =
    { session.inbox with
      held := session.inbox.held ++ more
      announced := session.inbox.announced || announced } := by
  rcases worked : decode session.undigested with ⟨bytes, undigested, stop⟩
  simp only [digest, worked]
  cases stop with
  | «over» => exact ⟨bytes, true, by simp [inbox]⟩
  | data | nothing | cutOff | failed => exact ⟨bytes, false, by simp [inbox]⟩

theorem yields_deliver {session later : ClearSession} {room : Nat} {answer : Delivery} (some : 0 < room)
    (answered : session.deliver room = (answer, later)) : session.inbox.Yields room answer later.inbox := by
  unfold deliver at answered
  split at answered
  · rename_i waiting
    have waiting : session.plaintext ≠ [] := by simpa [Nat.pos_iff_ne_zero.mp some] using waiting
    cases answered
    refine ⟨?_, List.length_take_le room _, (List.take_append_drop room _).symm, rfl⟩
    simpa [Nat.pos_iff_ne_zero.mp some] using waiting
  · rename_i none
    have none : session.plaintext = [] := by simp_all
    split at answered
    · rename_i announced
      cases answered
      exact ⟨none, announced, rfl⟩
    · rename_i silent
      have silent : session.peerIsOver = false := by simpa using silent
      split at answered
      · rename_i ended
        cases answered
        exact ⟨none, silent, ended, rfl⟩
      · rename_i going
        cases answered
        exact ⟨none, by simp_all [Inbox.isOver, inbox], rfl⟩

theorem receives : Session.Receives inbox where
  drain _ _ := rfl
  intake := by
    intro session atEnd
    simp only [Session.intake] at atEnd
    split at atEnd
    · rename_i announced
      simp [Inbox.isOver, inbox, announced]
    · cases atEnd
  feed _ _ := rfl
  digest := inbox_digest
  deliver := yields_deliver
  accept _ _ := rfl
  announceEnd _ := rfl

end ClearSession

namespace SecureChannel

variable {S : Type} [Session S] {inbox : S → Inbox}

theorem keeps_isOver (receives : Session.Receives inbox) :
    Session.Keeps fun session => (inbox session).isOver = true where
  drain count atEnd := by rwa [receives.drain]
  feed bytes atEnd := by
    rw [receives.feed]
    simp only [Inbox.isOver, Bool.or_eq_true] at atEnd ⊢
    cases atEnd with
    | inl announced => exact .inl announced
    | inr ended => exact .inr (.inl ended)
  digest := by
    intro session atEnd
    obtain ⟨more, announced, after⟩ := receives.digest session
    rw [after]
    simp only [Inbox.isOver, Bool.or_eq_true] at atEnd ⊢
    cases atEnd with
    | inl announced => exact .inl (.inl announced)
    | inr ended => exact .inr ended

theorem eq_zero_of_digest_over {session : S} {socket : Socket} {count : Nat}
    (atEnd : (digest session socket count).1 = .over) : count = 0 := by
  unfold digest at atEnd
  split at atEnd
  · cases atEnd
  · by_cases none : count = 0
    · exact none
    · simp [none] at atEnd

theorem isOver_of_fill (receives : Session.Receives inbox) {session later : S} {socket rest : Socket}
    (atEnd : fill session socket = (.over, later, rest)) : (inbox later).isOver = true := by
  have working : ∀ {session later : S} {socket rest : Socket} {count : Nat},
      digest session socket count = (.over, later, rest) → (inbox session).isOver = true →
        (inbox later).isOver = true := by
    intro session later socket rest count worked atEnd
    have kept := holds_digest (keeps_isOver receives) socket count atEnd
    rwa [worked] at kept
  unfold fill at atEnd
  cases intake : Session.intake session with
  | refused why =>
    rw [intake] at atEnd
    cases atEnd
  | «over» =>
    rw [intake] at atEnd
    exact working atEnd (receives.intake session intake)
  | wanted =>
    rcases answer : receive socket with ⟨found, taken⟩
    simp only [intake, answer] at atEnd
    cases found with
    | blocked | interrupted | failed why => cases atEnd
    | done bytes =>
      have none : bytes = [] := List.eq_nil_of_length_eq_zero (eq_zero_of_digest_over (congrArg Prod.fst atEnd))
      have fed : (inbox (Session.feed session bytes)).isOver = true := by
        rw [receives.feed, none]
        simp [Inbox.isOver]
      exact working atEnd fed

end SecureChannel

structure Deciphered {S : Type} (inbox : S → Inbox) where
  session : S
  text : Bytes
deriving DecidableEq, Repr

namespace Deciphered

variable {S : Type} [Session S] {inbox : S → Inbox}

instance : Session (Deciphered inbox) where
  output deciphered := Session.output deciphered.session
  drain deciphered count := { deciphered with session := Session.drain deciphered.session count }
  intake deciphered := Session.intake deciphered.session
  feed deciphered bytes := { deciphered with session := Session.feed deciphered.session bytes }
  digest deciphered :=
    let (fault, session) := Session.digest deciphered.session
    let more := (inbox session).held.drop (inbox deciphered.session).held.length
    (fault, ⟨session, deciphered.text ++ more⟩)
  deliver deciphered room :=
    let (delivery, session) := Session.deliver deciphered.session room
    (delivery, { deciphered with session })
  accept deciphered bytes :=
    let (taken, session) := Session.accept deciphered.session bytes
    (taken, { deciphered with session })
  announceEnd deciphered := { deciphered with session := Session.announceEnd deciphered.session }

theorem erases_session : Session.Erases (Deciphered.session : Deciphered inbox → S) where
  output _ := rfl
  drain _ _ := rfl
  intake _ := rfl
  feed _ _ := rfl
  digest _ := rfl
  deliver _ _ := rfl
  accept _ _ := rfl
  announceEnd _ := rfl

def inboxNow (deciphered : Deciphered inbox) : Inbox := inbox deciphered.session

theorem receives (receives : Session.Receives inbox) :
    Session.Receives (inboxNow : Deciphered inbox → Inbox) where
  drain deciphered := receives.drain deciphered.session
  intake deciphered := receives.intake deciphered.session
  feed deciphered := receives.feed deciphered.session
  digest deciphered := receives.digest deciphered.session
  deliver := by
    intro deciphered later room answer some answered
    rcases inner : Session.deliver deciphered.session room with ⟨delivery, session⟩
    simp only [Session.deliver, inner] at answered
    cases answered
    exact receives.deliver some inner
  accept deciphered := receives.accept deciphered.session
  announceEnd deciphered := receives.announceEnd deciphered.session

def Balances (brought : Bytes) (deciphered : Deciphered inbox) : Prop :=
  brought ++ deciphered.inboxNow.held = deciphered.text

theorem keeps_balances (receives : Session.Receives inbox) (brought : Bytes) :
    Session.Keeps (Balances brought : Deciphered inbox → Prop) where
  drain := by
    intro deciphered count balances
    show brought ++ (inbox (Session.drain deciphered.session count)).held = deciphered.text
    rw [receives.drain]
    exact balances
  feed := by
    intro deciphered bytes balances
    show brought ++ (inbox (Session.feed deciphered.session bytes)).held = deciphered.text
    rw [receives.feed]
    exact balances
  digest := by
    intro deciphered balances
    obtain ⟨more, announced, after⟩ := receives.digest deciphered.session
    show brought ++ (inbox (Session.digest deciphered.session).2).held =
      deciphered.text ++ (inbox (Session.digest deciphered.session).2).held.drop
        (inbox deciphered.session).held.length
    have same : brought ++ (inbox deciphered.session).held = deciphered.text := balances
    rw [after, ← same]
    simp

theorem text_of_deliver {deciphered later : Deciphered inbox} {room : Nat} {answer : Delivery}
    (answered : Session.deliver deciphered room = (answer, later)) : later.text = deciphered.text := by
  simp only [Session.deliver] at answered
  cases answered
  rfl

theorem Balances.of_data (receives : Session.Receives inbox) {brought bytes : Bytes}
    {deciphered later : Deciphered inbox} {room : Nat} (some : 0 < room)
    (answered : Session.deliver deciphered room = (.data bytes, later))
    (balances : deciphered.Balances brought) : bytes ≠ [] ∧ later.Balances (brought ++ bytes) := by
  obtain ⟨more, fits, front, rest⟩ := (Deciphered.receives receives).deliver some answered
  refine ⟨more, ?_⟩
  unfold Balances at balances ⊢
  rw [text_of_deliver answered, ← balances, front, List.append_assoc]

theorem Balances.of_dry (receives : Session.Receives inbox) {brought : Bytes}
    {deciphered later : Deciphered inbox} {room : Nat} {answer : Delivery} (some : 0 < room)
    (answered : Session.deliver deciphered room = (answer, later)) (dry : ∀ bytes, answer ≠ .data bytes)
    (balances : deciphered.Balances brought) :
    later.Balances brought ∧ later.inboxNow.held = [] ∧ later.inboxNow = deciphered.inboxNow ∧
      (answer = .nothing ∨ later.inboxNow.isOver = true) := by
  obtain ⟨none, same, atEnd⟩ := ((Deciphered.receives receives).deliver some answered).dry dry
  refine ⟨?_, by rw [same, none], same, by rwa [same]⟩
  unfold Balances at balances ⊢
  rw [text_of_deliver answered, ← balances, same]

theorem Balances.of_fill (receives : Session.Receives inbox) {brought : Bytes} {room : Nat} (some : 0 < room)
    {session later next : Deciphered inbox} {socket rest : Socket} {outcome : Fill}
    (answered : Session.deliver session room = (.nothing, later))
    (filled : SecureChannel.fill later socket = (outcome, next, rest))
    (balances : session.Balances brought) : next.Balances brought := by
  obtain ⟨after, none, same, atEnd⟩ := balances.of_dry receives some answered (by simp)
  exact SecureChannel.holds_of_fill (keeps_balances receives brought) filled after

theorem balances_read (receives : Session.Receives inbox) {brought target : Bytes} (some : target ≠ [])
    (channel : SecureChannel (Deciphered inbox)) : channel.session.Balances brought →
      (channel.read target).2.2.session.Balances
          (brought ++ (channel.read target).1.moved (channel.read target).2.1) ∧
        ((channel.read target).1 = .progressed 0 →
          (channel.read target).2.2.session.inboxNow.held = [] ∧
            (channel.read target).2.2.session.inboxNow.isOver = true) := by
  have room : 0 < target.length := List.length_pos_iff.mpr some
  have sending : ∀ {session later : Deciphered inbox} {socket rest : Socket} {outcome : Flush},
      SecureChannel.flush session socket = (outcome, later, rest) → session.Balances brought →
        later.Balances brought :=
    SecureChannel.holds_of_flush (keeps_balances receives brought)
  fun_induction SecureChannel.read channel target with
  | case1 channel session socket flushed | case2 channel why session socket flushed =>
    intro balances
    simpa using sending flushed balances
  | case3 channel session socket flushed bytes later answered =>
    intro balances
    obtain ⟨more, after⟩ := (sending flushed balances).of_data receives room answered
    rw [Transfer.moved_progressed, Bytes.take_overwrite]
    exact ⟨after, by simp [more]⟩
  | case4 channel session socket flushed later answered
  | case5 channel session socket flushed later answered =>
    intro balances
    obtain ⟨after, none, same, atEnd⟩ := (sending flushed balances).of_dry receives room answered (by simp)
    have atEnd : later.inboxNow.isOver = true := by simpa using atEnd
    exact ⟨by simpa using after, fun met => ⟨none, atEnd⟩⟩
  | case6 channel session socket flushed why later answered =>
    intro balances
    exact ((Deciphered.receives receives).deliver room answered).elim
  | case7 channel session socket flushed later answered next rest filled ih =>
    intro balances
    exact ih ((sending flushed balances).of_fill receives room answered filled)
  | case8 channel session socket flushed later answered next rest filled bytes last delivered =>
    intro balances
    have came := (sending flushed balances).of_fill receives room answered filled
    obtain ⟨more, whole⟩ := came.of_data receives room delivered
    rw [Transfer.moved_progressed, Bytes.take_overwrite]
    exact ⟨whole, by simp [more]⟩
  | case9 channel session socket flushed later answered next rest filled answer last dry delivered =>
    intro balances
    have came := (sending flushed balances).of_fill receives room answered filled
    have ended := SecureChannel.isOver_of_fill (Deciphered.receives receives) filled
    obtain ⟨whole, none, same, atEnd⟩ := came.of_dry receives room delivered dry
    rw [← same] at ended
    exact ⟨by simpa using whole, fun met => ⟨none, ended⟩⟩
  | case10 channel session socket flushed later answered next rest filled
  | case11 channel session socket flushed later answered next rest why filled =>
    intro balances
    simpa using (sending flushed balances).of_fill receives room answered filled

theorem balances_ask (receives : Session.Receives inbox) {record : Recorded (SecureChannel (Deciphered inbox))}
    {request : Request} (roomy : ∀ target, request = .read target → target ≠ [])
    (balances : record.channel.session.Balances record.delivered) :
    (record.ask request).channel.session.Balances (record.ask request).delivered := by
  have keeps := keeps_balances receives record.delivered
  cases request with
  | read target =>
    have read := (balances_read receives (roomy target rfl) record.channel balances).1
    rcases answer : Channel.read record target with ⟨outcome, filled, next⟩
    obtain ⟨channel, inner, rfl⟩ := Recorded.of_read answer
    have inner : record.channel.read target = (outcome, filled, channel) := inner
    rw [inner] at read
    simpa [Recorded.ask, answer] using read
  | write offer =>
    rcases answer : Channel.write record offer with ⟨outcome, next⟩
    obtain ⟨channel, inner, rfl⟩ := Recorded.of_write answer
    have accept : ∀ (session : Deciphered inbox) bytes, session.Balances record.delivered →
        (Session.accept session bytes).2.Balances record.delivered := by
      intro session bytes balances
      show _ ++ (inbox (Session.accept session.session bytes).2).held = session.text
      rw [receives.accept]
      exact balances
    have kept := SecureChannel.holds_of_write keeps accept inner balances
    simpa [Recorded.ask, answer] using kept
  | close =>
    rcases answer : Channel.close record with ⟨outcome, next⟩
    obtain ⟨channel, inner, rfl⟩ := Recorded.of_close answer
    have announceEnd : ∀ session : Deciphered inbox, session.Balances record.delivered →
        (Session.announceEnd session).Balances record.delivered := by
      intro session balances
      show _ ++ (inbox (Session.announceEnd session.session)).held = session.text
      rw [receives.announceEnd]
      exact balances
    have kept := SecureChannel.holds_of_close keeps announceEnd inner balances
    simpa [Recorded.ask, answer, Call.delivered] using kept

theorem balances_serve (receives : Session.Receives inbox) {requests : List Request}
    (roomy : ∀ target, .read target ∈ requests → target ≠ [])
    {record : Recorded (SecureChannel (Deciphered inbox))}
    (balances : record.channel.session.Balances record.delivered) :
    (record.serve requests).channel.session.Balances (record.serve requests).delivered := by
  induction requests generalizing record with
  | nil => exact balances
  | cons request later ih =>
    have first : ∀ target, request = .read target → target ≠ [] := by
      intro target same
      exact roomy target (same ▸ List.mem_cons_self)
    have rest : ∀ target, .read target ∈ later → target ≠ [] :=
      fun target member => roomy target (List.mem_cons_of_mem request member)
    exact ih rest (balances_ask receives first balances)

theorem whole_at_end (receives : Session.Receives inbox)
    {record : Recorded (SecureChannel (Deciphered inbox))}
    (balances : record.channel.session.Balances record.delivered) {target : Bytes} (some : target ≠ [])
    (met : (Channel.read record target).1 = .progressed 0) :
    ((record.ask (.read target)).channel.session.inboxNow.announced ∨
        (record.ask (.read target)).channel.session.inboxNow.ended) ∧
      (record.ask (.read target)).delivered = (record.ask (.read target)).channel.session.text := by
  obtain ⟨whole, stop⟩ := balances_read receives some record.channel balances
  obtain ⟨none, atEnd⟩ := stop met
  refine ⟨(Bool.or_eq_true _ _).mp atEnd, ?_⟩
  unfold Balances at whole
  rw [none, List.append_nil] at whole
  rw [Recorded.delivered_ask_read]
  exact whole

def begin (inbox : S → Inbox) (channel : SecureChannel S) : Recorded (SecureChannel (Deciphered inbox)) :=
  { channel := channel.map fun session => ⟨session, (inbox session).held⟩ }

end Deciphered

namespace SecureChannel

variable {S : Type} [Session S] {inbox : S → Inbox}

def textOf (inbox : S → Inbox) (channel : SecureChannel S) (requests : List Request) : Bytes :=
  ((Deciphered.begin inbox channel).serve requests).channel.session.text

theorem delivered_in_order_and_whole_at_end (receives : Session.Receives inbox)
    (channel : SecureChannel S) (requests : List Request)
    (roomy : ∀ target, .read target ∈ requests → target ≠ []) :
    let record := Recorded.serve { channel } requests
    record.delivered ++ (inbox record.channel.session).held = channel.textOf inbox requests ∧
      ∀ target, target ≠ [] → (Channel.read record target).1 = .progressed 0 →
        let last := record.ask (.read target)
        ((inbox last.channel.session).announced ∨ (inbox last.channel.session).ended) ∧
          last.delivered = channel.textOf inbox (requests ++ [.read target]) := by
  intro record
  obtain ⟨noted, begun⟩ : ∃ noted, (Deciphered.begin inbox channel).serve requests = noted := ⟨_, rfl⟩
  have fresh : (Deciphered.begin inbox channel).channel.session.Balances
      (Deciphered.begin inbox channel).delivered := rfl
  have balances : noted.channel.session.Balances noted.delivered := by
    rw [← begun]
    exact Deciphered.balances_serve receives roomy fresh
  have same : record = noted.map (·.map Deciphered.session) := by
    rw [← begun]
    exact Recorded.serve_erase Deciphered.erases_session (Deciphered.begin inbox channel) requests
  have text : channel.textOf inbox requests = noted.channel.session.text := by rw [textOf, begun]
  refine ⟨by rw [same, text]; exact balances, ?_⟩
  intro target some met last
  have answer := congrArg Prod.fst (read_erase Deciphered.erases_session noted.channel target)
  have met : (Channel.read noted target).1 = .progressed 0 := by
    rw [same] at met
    exact answer.symm.trans met
  have asked : last = (noted.ask (.read target)).map (·.map Deciphered.session) := by
    show record.ask (.read target) = _
    rw [same]
    exact Recorded.ask_erase Deciphered.erases_session noted (.read target)
  have text : channel.textOf inbox (requests ++ [.read target]) =
      (noted.ask (.read target)).channel.session.text := by
    rw [textOf, Recorded.serve_append, begun]
    rfl
  rw [asked, text]
  exact Deciphered.whole_at_end receives balances some met

-- The text and the announcement of its end come in cut across the records, and past a write that is
-- blocked at first.
theorem delivered_in_order_and_whole_at_end_of_pieces :
    let channel : SecureChannel ClearSession :=
      { session := { output := [9] }
        socket :=
          { incoming := [.done [1], .interrupted, .done [7, 1, 8, 0]]
            room := [.blocked, .done 1, .done 4] }
        peer := ⟨.loopback, 0⟩ }
    let requests : List Request := [.read [0], .read [0], .write [3], .read [0, 0]]
    let record := Recorded.serve { channel } requests
    let last := record.ask (.read [0])
    Session.Receives ClearSession.inbox ∧ (∀ target, .read target ∈ requests → target ≠ []) ∧
      record.delivered ++ record.channel.session.plaintext =
        channel.textOf ClearSession.inbox requests ∧
      (Channel.read record [0]).1 = .progressed 0 ∧
      (last.channel.session.peerIsOver ∨ last.channel.session.streamEnded) ∧
      last.delivered = channel.textOf ClearSession.inbox (requests ++ [.read [0]]) ∧
      last.delivered = [7, 8] := by
  intro channel requests record last
  have roomy : ∀ target, .read target ∈ requests → target ≠ [] := by
    intro target member none
    subst none
    exact absurd member (by decide)
  obtain ⟨balances, whole⟩ :=
    delivered_in_order_and_whole_at_end ClearSession.receives channel requests roomy
  have met : (Channel.read record [0]).1 = .progressed 0 := by decide +kernel
  have brought : last.delivered = [7, 8] := by decide +kernel
  obtain ⟨atEnd, text⟩ := whole [0] (by decide) met
  exact ⟨ClearSession.receives, roomy, balances, met, atEnd, text, brought⟩

end SecureChannel

end SecureEcho
