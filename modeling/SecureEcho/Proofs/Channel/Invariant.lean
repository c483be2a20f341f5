import SecureEcho.Channel.Secure

namespace SecureEcho

structure Session.Keeps {S : Type} [Session S] (Holds : S → Prop) : Prop where
  drain : ∀ {session : S} (count : Nat), Holds session → Holds (Session.drain session count)
  feed : ∀ {session : S} (bytes : Bytes), Holds session → Holds (Session.feed session bytes)
  digest : ∀ {session : S}, Holds session → Holds (Session.digest session).2

-- The same of a session and its socket together, where the session forgets just what the socket took.
structure Session.Conveys {S : Type} [Session S] (Holds : S → Socket → Prop) : Prop where
  sent : ∀ {session : S} {socket : Socket} {count : Nat},
    (socket.write (Session.output session)).1 = .done count → Holds session socket →
      Holds (Session.drain session count) (socket.write (Session.output session)).2
  unsent : ∀ {session : S} {socket : Socket},
    (∀ count, (socket.write (Session.output session)).1 ≠ .done count) → Holds session socket →
      Holds session (socket.write (Session.output session)).2
  received : ∀ {session : S} {socket : Socket}, Holds session socket → Holds session socket.read.2
  feed : ∀ {session : S} {socket : Socket} (bytes : Bytes), Holds session socket →
    Holds (Session.feed session bytes) socket
  digest : ∀ {session : S} {socket : Socket}, Holds session socket →
    Holds (Session.digest session).2 socket

theorem Session.Keeps.conveys {S : Type} [Session S] {Holds : S → Prop} (keeps : Session.Keeps Holds) :
    Session.Conveys fun session _ => Holds session where
  sent _ holds := keeps.drain _ holds
  unsent _ holds := holds
  received holds := holds
  feed bytes holds := keeps.feed bytes holds
  digest holds := keeps.digest holds

namespace SecureChannel

section

variable {S : Type} [Session S] {Holds : S → Socket → Prop}

theorem conveyed_flush (conveys : Session.Conveys Holds) (session : S) (socket : Socket) :
    Holds session socket → Holds (flush session socket).2.1 (flush session socket).2.2 := by
  fun_induction flush session socket with
  | case1 => exact id
  | case2 session socket some count took ih => exact fun holds => ih (conveys.sent took holds)
  | case3 session socket some interrupted ih =>
    exact fun holds => ih (conveys.unsent (by simp [interrupted]) holds)
  | case4 session socket some stopped | case5 session socket some why stopped =>
    exact conveys.unsent (by simp [stopped])

theorem conveyed_receive (conveys : Session.Conveys Holds) {session : S} (socket : Socket) :
    Holds session socket → Holds session (receive socket).2 := by
  fun_induction receive socket with
  | case1 socket interrupted ih => exact fun holds => ih (conveys.received holds)
  | case2 socket other => exact conveys.received

theorem conveyed_nudge (conveys : Session.Conveys Holds) {session : S} {socket : Socket}
    (holds : Holds session socket) : Holds (nudge session socket).1 (nudge session socket).2 := by
  unfold nudge
  split
  · exact holds
  · split
    · rename_i answer
      have sent := conveys.sent (congrArg Prod.fst answer) holds
      rwa [answer] at sent
    · rename_i other answer
      have unsent := conveys.unsent
        (fun count took => other count ((congrArg Prod.fst answer).symm.trans took)) holds
      rwa [answer] at unsent

theorem conveyed_digest (conveys : Session.Conveys Holds) {session : S} {socket : Socket} (count : Nat)
    (holds : Holds session socket) :
    Holds (digest session socket count).2.1 (digest session socket count).2.2 := by
  have worked := conveys.digest holds
  unfold digest
  split
  · rename_i answer
    rw [answer] at worked
    exact conveyed_nudge conveys worked
  · rename_i answer
    rw [answer] at worked
    exact worked

theorem conveyed_fill (conveys : Session.Conveys Holds) {session : S} {socket : Socket}
    (holds : Holds session socket) : Holds (fill session socket).2.1 (fill session socket).2.2 := by
  have came := conveyed_receive conveys socket holds
  unfold fill
  cases Session.intake session with
  | refused why => exact holds
  | «over» => exact conveyed_digest conveys 0 holds
  | wanted =>
    rcases answer : receive socket with ⟨found, later⟩
    rw [answer] at came
    cases found with
    | done bytes => exact conveyed_digest conveys _ (conveys.feed bytes came)
    | blocked | interrupted | failed why => exact came

theorem conveyed_of_flush (conveys : Session.Conveys Holds) {session later : S} {socket rest : Socket}
    {outcome : Flush} (flushed : flush session socket = (outcome, later, rest))
    (holds : Holds session socket) : Holds later rest := by
  have kept := conveyed_flush conveys session socket holds
  rwa [flushed] at kept

theorem conveyed_of_fill (conveys : Session.Conveys Holds) {session later : S} {socket rest : Socket}
    {outcome : Fill} (filled : fill session socket = (outcome, later, rest))
    (holds : Holds session socket) : Holds later rest := by
  have kept := conveyed_fill conveys holds
  rwa [filled] at kept

theorem conveyed_read (conveys : Session.Conveys Holds)
    (deliver : ∀ session socket count, Holds session socket →
      Holds (Session.deliver session count).2 socket)
    (channel : SecureChannel S) (target : Bytes) :
    Holds channel.session channel.socket →
      Holds (channel.read target).2.2.session (channel.read target).2.2.socket := by
  have delivering : ∀ {session later : S} {socket : Socket} {outcome : Delivery},
      Session.deliver session target.length = (outcome, later) → Holds session socket →
        Holds later socket := by
    intro session later socket outcome delivered holds
    have kept := deliver session socket target.length holds
    rwa [delivered] at kept
  fun_induction read channel target with
  | case1 channel later rest flushed | case2 channel why later rest flushed =>
    exact fun holds => conveyed_of_flush conveys flushed holds
  | case3 channel _ _ flushed _ _ delivered | case4 channel _ _ flushed _ delivered
  | case5 channel _ _ flushed _ delivered | case6 channel _ _ flushed _ _ delivered =>
    exact fun holds => delivering delivered (conveyed_of_flush conveys flushed holds)
  | case7 channel _ _ flushed _ delivered _ _ filled ih =>
    intro holds
    have waiting := delivering delivered (conveyed_of_flush conveys flushed holds)
    exact ih (conveyed_of_fill conveys filled waiting)
  | case8 channel _ _ flushed _ nothing _ _ filled _ _ delivered
  | case9 channel _ _ flushed _ nothing _ _ filled _ _ _ delivered =>
    intro holds
    have waiting := delivering nothing (conveyed_of_flush conveys flushed holds)
    exact delivering delivered (conveyed_of_fill conveys filled waiting)
  | case10 channel _ _ flushed _ nothing _ _ filled | case11 channel _ _ flushed _ nothing _ _ _ filled =>
    intro holds
    have waiting := delivering nothing (conveyed_of_flush conveys flushed holds)
    exact conveyed_of_fill conveys filled waiting

theorem conveyed_of_confirm (conveys : Session.Conveys Holds) {channel next : SecureChannel S}
    {outcome : Transfer} (answer : channel.confirm = (outcome, next))
    (holds : Holds channel.session channel.socket) : Holds next.session next.socket := by
  unfold confirm at answer
  split at answer
  all_goals
    rename_i flushed
    cases answer
    exact conveyed_of_flush conveys flushed holds

theorem conveyed_of_write (conveys : Session.Conveys Holds)
    (accept : ∀ session socket bytes, Holds session socket →
      Holds (Session.accept session bytes).2 socket)
    {channel next : SecureChannel S} {offer : Bytes} {outcome : Transfer}
    (answer : channel.write offer = (outcome, next)) (holds : Holds channel.session channel.socket) :
    Holds next.session next.socket := by
  have taken := accept channel.session channel.socket offer holds
  unfold write at answer
  split at answer
  · exact conveyed_of_confirm conveys answer holds
  · split at answer
    · cases answer
      exact holds
    · split at answer
      · rename_i refused
        rw [refused] at taken
        cases answer
        exact taken
      · rename_i accepted
        rw [accepted] at taken
        exact conveyed_of_confirm conveys answer taken

end

variable {S : Type} [Session S] {Holds : S → Prop}

theorem holds_digest (keeps : Session.Keeps Holds) {session : S} (socket : Socket) (count : Nat)
    (holds : Holds session) : Holds (digest session socket count).2.1 :=
  conveyed_digest keeps.conveys count holds

theorem holds_of_flush (keeps : Session.Keeps Holds) {session later : S} {socket rest : Socket}
    {outcome : Flush} (flushed : flush session socket = (outcome, later, rest)) (holds : Holds session) :
    Holds later :=
  conveyed_of_flush keeps.conveys flushed holds

theorem holds_of_fill (keeps : Session.Keeps Holds) {session later : S} {socket rest : Socket}
    {outcome : Fill} (filled : fill session socket = (outcome, later, rest)) (holds : Holds session) :
    Holds later :=
  conveyed_of_fill keeps.conveys filled holds

theorem holds_read (keeps : Session.Keeps Holds)
    (deliver : ∀ session count, Holds session → Holds (Session.deliver session count).2)
    (channel : SecureChannel S) (target : Bytes) :
    Holds channel.session → Holds (channel.read target).2.2.session :=
  conveyed_read keeps.conveys (fun session _ count => deliver session count) channel target

theorem holds_of_confirm (keeps : Session.Keeps Holds) {channel next : SecureChannel S}
    {outcome : Transfer} (answer : channel.confirm = (outcome, next)) (holds : Holds channel.session) :
    Holds next.session :=
  conveyed_of_confirm keeps.conveys answer holds

theorem holds_of_write (keeps : Session.Keeps Holds)
    (accept : ∀ session bytes, Holds session → Holds (Session.accept session bytes).2)
    {channel next : SecureChannel S} {offer : Bytes} {outcome : Transfer}
    (answer : channel.write offer = (outcome, next)) (holds : Holds channel.session) :
    Holds next.session :=
  conveyed_of_write keeps.conveys (fun session _ bytes => accept session bytes) answer holds

theorem holds_of_close (keeps : Session.Keeps Holds)
    (announceEnd : ∀ session, Holds session → Holds (Session.announceEnd session))
    {channel next : SecureChannel S} {outcome : Closure}
    (answer : channel.close = (outcome, next)) (holds : Holds channel.session) : Holds next.session := by
  have announced : Holds
      (if channel.endAnnounced then channel.session else Session.announceEnd channel.session) := by
    split
    · exact holds
    · exact announceEnd _ holds
  unfold close at answer
  dsimp only at answer
  split at answer
  all_goals
    rename_i flushed
    cases answer
    exact holds_of_flush keeps flushed announced

end SecureChannel

end SecureEcho
