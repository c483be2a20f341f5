import SecureEcho.Channel.Secure
import SecureEcho.Proofs.Channel.Record

namespace SecureEcho

-- A session of type `T` is one of type `S`, and something that its operations never ask for.
structure Session.Erases {T S : Type} [Session T] [Session S] (erase : T → S) : Prop where
  output : ∀ session, Session.output (erase session) = Session.output session
  drain : ∀ session count,
    Session.drain (erase session) count = erase (Session.drain session count)
  intake : ∀ session, Session.intake (erase session) = Session.intake session
  feed : ∀ session bytes, Session.feed (erase session) bytes = erase (Session.feed session bytes)
  digest : ∀ session, Session.digest (erase session) =
    ((Session.digest session).1, erase (Session.digest session).2)
  deliver : ∀ session room, Session.deliver (erase session) room =
    ((Session.deliver session room).1, erase (Session.deliver session room).2)
  accept : ∀ session bytes, Session.accept (erase session) bytes =
    ((Session.accept session bytes).1, erase (Session.accept session bytes).2)
  announceEnd : ∀ session, Session.announceEnd (erase session) = erase (Session.announceEnd session)

namespace SecureChannel

variable {T S : Type}

def map (erase : T → S) (channel : SecureChannel T) : SecureChannel S :=
  { session := erase channel.session
    socket := channel.socket
    peer := channel.peer
    unflushed := channel.unflushed
    endAnnounced := channel.endAnnounced }

variable [Session T] [Session S] {erase : T → S}

theorem flush_erase (erases : Session.Erases erase) (session : T) (socket : Socket) :
    flush (erase session) socket =
      ((flush session socket).1, erase (flush session socket).2.1, (flush session socket).2.2) := by
  fun_induction flush session socket with
  | case1 session socket none =>
    rw [flush, erases.output, if_pos none]
  | case2 session socket some count took ih =>
    rw [flush, erases.output, if_neg some]
    split
    all_goals
      rename_i answer
      cases took.symm.trans answer
    rw [erases.drain]
    exact ih
  | case3 session socket some interrupted ih =>
    rw [flush, erases.output, if_neg some]
    split
    all_goals
      rename_i answer
      cases interrupted.symm.trans answer
    exact ih
  | case4 session socket some stopped | case5 session socket some why stopped =>
    rw [flush, erases.output, if_neg some]
    split
    all_goals
      rename_i answer
      cases stopped.symm.trans answer
    rfl

theorem nudge_erase (erases : Session.Erases erase) (session : T) (socket : Socket) :
    nudge (erase session) socket = (erase (nudge session socket).1, (nudge session socket).2) := by
  unfold nudge
  rw [erases.output]
  split
  · rfl
  · split
    · simp [erases.drain]
    · rfl

theorem digest_erase (erases : Session.Erases erase) (session : T) (socket : Socket) (count : Nat) :
    digest (erase session) socket count =
      ((digest session socket count).1, erase (digest session socket count).2.1,
        (digest session socket count).2.2) := by
  unfold digest
  rw [erases.digest]
  rcases Session.digest session with ⟨_ | why, later⟩
  · rfl
  · simp [nudge_erase erases]

theorem fill_erase (erases : Session.Erases erase) (session : T) (socket : Socket) :
    fill (erase session) socket =
      ((fill session socket).1, erase (fill session socket).2.1, (fill session socket).2.2) := by
  unfold fill
  rw [erases.intake]
  cases Session.intake session with
  | refused why => rfl
  | «over» => exact digest_erase erases session socket 0
  | wanted =>
    rcases receive socket with ⟨found, later⟩
    cases found with
    | done bytes =>
      simp only [erases.feed]
      exact digest_erase erases _ later bytes.length
    | blocked | interrupted | failed why => rfl

theorem read_of_nothing {channel : SecureChannel S} {target : Bytes} {session later : S} {socket : Socket}
    (flushed : flush channel.session channel.socket = (.finished, session, socket))
    (nothing : Session.deliver session target.length = (.nothing, later)) :
    channel.read target =
      match fill later socket with
      | (.more, session, socket) => read { channel with session, socket } target
      | (.over, session, socket) =>
        match Session.deliver session target.length with
        | (.data bytes, session) =>
          (.progressed bytes.length, Bytes.overwrite target 0 bytes, { channel with session, socket })
        | (_, session) => (.progressed 0, target, { channel with session, socket })
      | (.blocked, session, socket) => (.blocked .read, target, { channel with session, socket })
      | (.failed why, session, socket) => (.failed why, target, { channel with session, socket }) := by
  rcases filled : fill later socket with ⟨outcome, next, rest⟩
  rcases delivered : Session.deliver next target.length with ⟨answer, last⟩
  rw [read]
  split
  all_goals
    rename_i sent
    cases flushed.symm.trans sent
  rw [nothing]
  dsimp only
  split
  all_goals
    rename_i came
    cases filled.symm.trans came
  · rfl
  · cases answer with
    | data | nothing | «over» | cutOff | failed => simp only [delivered]
  · rfl
  · rfl

theorem read_erase (erases : Session.Erases erase) (channel : SecureChannel T) (target : Bytes) :
    (channel.map erase).read target =
      ((channel.read target).1, (channel.read target).2.1, (channel.read target).2.2.map erase) := by
  have sending : ∀ {session later : T} {socket rest : Socket} {outcome : Flush},
      flush session socket = (outcome, later, rest) →
        flush (erase session) socket = (outcome, erase later, rest) := by
    intro session later socket rest outcome flushed
    rw [flush_erase erases, flushed]
  have asking : ∀ {session later : T} {answer : Delivery},
      Session.deliver session target.length = (answer, later) →
        Session.deliver (erase session) target.length = (answer, erase later) := by
    intro session later answer delivered
    rw [erases.deliver, delivered]
  have filling : ∀ {session later : T} {socket rest : Socket} {outcome : Fill},
      fill session socket = (outcome, later, rest) →
        fill (erase session) socket = (outcome, erase later, rest) := by
    intro session later socket rest outcome filled
    rw [fill_erase erases, filled]
  fun_induction read channel target with
  | case1 channel session socket flushed | case2 channel why session socket flushed =>
    rw [read]
    split
    all_goals
      rename_i sent
      cases (sending flushed).symm.trans sent
    rfl
  | case3 channel session socket flushed bytes later delivered
  | case4 channel session socket flushed later delivered
  | case5 channel session socket flushed later delivered
  | case6 channel session socket flushed why later delivered =>
    rw [read]
    split
    all_goals
      rename_i sent
      cases (sending flushed).symm.trans sent
    rw [asking delivered]
    rfl
  | case7 channel session socket flushed later nothing next rest filled ih =>
    rw [read_of_nothing (sending flushed) (asking nothing), filling filled]
    exact ih
  | case8 channel session socket flushed later nothing next rest filled bytes last delivered =>
    rw [read_of_nothing (sending flushed) (asking nothing), filling filled]
    dsimp only
    rw [asking delivered]
    rfl
  | case9 channel session socket flushed later nothing next rest filled answer last dry delivered =>
    rw [read_of_nothing (sending flushed) (asking nothing), filling filled]
    dsimp only
    rw [asking delivered]
    cases answer with
    | data bytes => exact (dry bytes rfl).elim
    | nothing | «over» | cutOff | failed => rfl
  | case10 channel session socket flushed later nothing next rest filled
  | case11 channel session socket flushed later nothing next rest why filled =>
    rw [read_of_nothing (sending flushed) (asking nothing), filling filled]
    rfl

theorem confirm_erase (erases : Session.Erases erase) (channel : SecureChannel T) :
    (channel.map erase).confirm = (channel.confirm.1, channel.confirm.2.map erase) := by
  unfold confirm
  simp only [map, flush_erase erases]
  rcases flush channel.session channel.socket with ⟨outcome, later, rest⟩
  cases outcome with
  | finished | blocked | failed => rfl

theorem write_erase (erases : Session.Erases erase) (channel : SecureChannel T) (offer : Bytes) :
    (channel.map erase).write offer = ((channel.write offer).1, (channel.write offer).2.map erase) := by
  unfold write
  by_cases owed : channel.unflushed ≠ 0
  · rw [if_pos owed, if_pos (show (channel.map erase).unflushed ≠ 0 from owed)]
    exact confirm_erase erases channel
  · rw [if_neg owed, if_neg (show ¬(channel.map erase).unflushed ≠ 0 from owed)]
    by_cases none : offer.isEmpty
    · rw [if_pos none, if_pos none]
    · rw [if_neg none, if_neg none]
      have taken : Session.accept (channel.map erase).session offer =
          ((Session.accept channel.session offer).1, erase (Session.accept channel.session offer).2) :=
        erases.accept channel.session offer
      rw [taken]
      rcases Session.accept channel.session offer with ⟨_ | count, later⟩
      · rfl
      · exact confirm_erase erases { channel with session := later, unflushed := count }

theorem close_erase (erases : Session.Erases erase) (channel : SecureChannel T) :
    (channel.map erase).close = (channel.close.1, channel.close.2.map erase) := by
  have announced :
      (if (channel.map erase).endAnnounced then (channel.map erase).session
        else Session.announceEnd (channel.map erase).session) =
      erase (if channel.endAnnounced then channel.session
        else Session.announceEnd channel.session) := by
    by_cases before : channel.endAnnounced = true
    · rw [if_pos before, if_pos (show (channel.map erase).endAnnounced = true from before)]
      rfl
    · rw [if_neg before, if_neg (show ¬(channel.map erase).endAnnounced = true from before)]
      exact erases.announceEnd channel.session
  unfold close
  dsimp only
  rw [announced, flush_erase erases]
  simp only [map]
  rcases flush (if channel.endAnnounced then channel.session
    else Session.announceEnd channel.session) channel.socket with ⟨outcome, later, rest⟩
  cases outcome with
  | finished | blocked | failed => rfl

end SecureChannel

namespace Recorded

variable {T S : Type} [Session T] [Session S] {erase : T → S}

def map {C D : Type} (image : C → D) (record : Recorded C) : Recorded D :=
  { channel := image record.channel, serial := record.serial, calls := record.calls }

theorem ask_erase (erases : Session.Erases erase) (record : Recorded (SecureChannel T))
    (request : Request) :
    (record.map (·.map erase)).ask request = (record.ask request).map (·.map erase) := by
  cases request with
  | read target =>
    have same := SecureChannel.read_erase erases record.channel target
    simp only [ask, map, Channel.read, same]
    rfl
  | write offer =>
    have same := SecureChannel.write_erase erases record.channel offer
    simp only [ask, map, Channel.write, same]
    rfl
  | close =>
    have same := SecureChannel.close_erase erases record.channel
    simp only [ask, map, Channel.close, same]
    rfl

theorem serve_erase (erases : Session.Erases erase) (record : Recorded (SecureChannel T))
    (requests : List Request) :
    (record.map (·.map erase)).serve requests = (record.serve requests).map (·.map erase) := by
  induction requests generalizing record with
  | nil => rfl
  | cons request later ih =>
    have first := ask_erase erases record request
    have rest := ih (record.ask request)
    simp only [serve, List.foldl_cons] at rest ⊢
    rw [first, rest]

end Recorded

end SecureEcho
