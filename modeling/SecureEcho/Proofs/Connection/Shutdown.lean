import SecureEcho.Proofs.Channel.Sealing
import SecureEcho.Proofs.Channel.Waiting
import SecureEcho.Proofs.Connection.Closing

namespace SecureEcho

inductive Socket.Wrote : Socket → List (Attempt Nat) → Socket → Prop where
  | nil {socket : Socket} : Wrote socket [] socket
  | cons {socket later : Socket} {offer : Bytes} {answers : List (Attempt Nat)} :
      Wrote (socket.write offer).2 answers later →
        Wrote socket ((socket.write offer).1 :: answers) later

theorem Socket.Wrote.isShutDown {socket later : Socket} {answers : List (Attempt Nat)}
    (wrote : socket.Wrote answers later) : later.isShutDown = socket.isShutDown := by
  induction wrote with
  | nil => rfl
  | cons later ih => rw [ih, isShutDown_write]

def Flush.EndsWith (answers : List (Attempt Nat)) : Flush → Prop
  | .finished => True
  | .blocked => answers.getLast? = some .blocked
  | .failed why => answers.getLast? = some (.failed why)

theorem Flush.EndsWith.cons {outcome : Flush} {answers : List (Attempt Nat)}
    (ends : outcome.EndsWith answers) (first : Attempt Nat) : outcome.EndsWith (first :: answers) := by
  cases outcome with
  | finished => trivial
  | blocked | failed why =>
    simp only [EndsWith, List.getLast?_cons] at ends ⊢
    rw [ends]
    rfl

namespace SecureChannel

variable {S : Type} [Session S]

theorem wrote_flush (session : S) (socket : Socket) :
    ∃ answers, socket.Wrote answers (flush session socket).2.2 ∧
      (flush session socket).1.EndsWith answers := by
  fun_induction flush session socket with
  | case1 => exact ⟨[], .nil, trivial⟩
  | case2 session socket some count took ih | case3 session socket some interrupted ih =>
    obtain ⟨answers, wrote, ends⟩ := ih
    exact ⟨_, .cons wrote, ends.cons _⟩
  | case4 session socket some stopped => exact ⟨_, .cons .nil, congrArg Option.some stopped⟩
  | case5 session socket some why stopped => exact ⟨_, .cons .nil, congrArg Option.some stopped⟩

def announced (channel : SecureChannel S) : S :=
  if channel.endAnnounced then channel.session else Session.announceEnd channel.session

theorem of_close {channel next : SecureChannel S} {closure : Closure}
    (answer : channel.close = (closure, next)) :
    ∃ outcome rest, flush channel.announced channel.socket = (outcome, next.session, rest) ∧
      next.endAnnounced = true ∧
      (outcome = .blocked ∧ closure = .blocked .write ∧ next.socket = rest ∨
        outcome ≠ .blocked ∧ closure = .finished ∧ next.socket = rest.shutDown) := by
  unfold close at answer
  dsimp only at answer
  split at answer
  · rename_i flushed
    cases answer
    exact ⟨_, _, flushed, rfl, .inl ⟨rfl, rfl, rfl⟩⟩
  · rename_i other flushed
    cases answer
    exact ⟨_, _, flushed, rfl, .inr ⟨other, rfl, rfl⟩⟩

theorem settled_close {channel next : SecureChannel S} {closure : Closure}
    (answer : channel.close = (closure, next)) :
    ∃ answers rest, channel.socket.Wrote answers rest ∧
      (closure = .blocked .write ∧ answers.getLast? = some .blocked ∧ next.socket = rest ∨
        closure = .finished ∧ next.socket = rest.shutDown ∧
          ((∃ why, .failed why ∈ answers) ∨ Session.output next.session = [])) := by
  obtain ⟨outcome, rest, flushed, -, settled⟩ := of_close answer
  obtain ⟨answers, wrote, ends⟩ := wrote_flush channel.announced channel.socket
  have emptied : (flush channel.announced channel.socket).1 = .finished →
      Session.output (flush channel.announced channel.socket).2.1 = [] := output_flush
  rw [flushed] at wrote ends emptied
  refine ⟨answers, rest, wrote, ?_⟩
  rcases settled with ⟨rfl, closure, same⟩ | ⟨unblocked, closure, same⟩
  · exact .inl ⟨closure, ends, same⟩
  · refine .inr ⟨closure, same, ?_⟩
    cases outcome with
    | blocked => exact absurd rfl unblocked
    | finished => exact .inr (emptied rfl)
    | failed why => exact .inl ⟨why, List.mem_of_getLast? ends⟩

def closing (channel : SecureChannel S) (requests : List Request) (tries : Nat) :
    Recorded (SecureChannel S) :=
  Recorded.serve { channel } (requests ++ List.replicate tries .close)

theorem closing_succ (channel : SecureChannel S) (requests : List Request) (tries : Nat) :
    channel.closing requests (tries + 1) = (channel.closing requests tries).ask .close := by
  unfold closing
  rw [List.replicate_succ', ← List.append_assoc, Recorded.serve_append]
  rfl

theorem serve_closing (channel : SecureChannel S) (requests : List Request) (tries : Nat) :
    (channel.closing requests 0).serve (List.replicate tries .close) =
      channel.closing requests tries := by
  unfold closing
  rw [← Recorded.serve_append, List.append_assoc]
  rfl

theorem close_closing (channel : SecureChannel S) (requests : List Request) (tries : Nat) :
    (channel.closing requests tries).channel.close =
      ((channel.closing requests tries).channel.close.1,
        (channel.closing requests (tries + 1)).channel) := by
  rw [closing_succ]
  rfl

theorem unshut_closing {channel : SecureChannel S} {requests : List Request}
    (unshut : (channel.closing requests 0).channel.socket.isShutDown = false) {tries : Nat}
    (held : ∀ earlier < tries, (channel.closing requests earlier).channel.close.1 ≠ .finished) :
    (channel.closing requests tries).channel.socket.isShutDown = false := by
  induction tries with
  | zero => exact unshut
  | succ tries ih =>
    have before := ih fun earlier few => held earlier (by omega)
    obtain ⟨answers, rest, wrote, settled⟩ := settled_close (channel.close_closing requests tries)
    rcases settled with ⟨-, -, same⟩ | ⟨finished, -⟩
    · rw [same, wrote.isShutDown, before]
    · exact absurd finished (held tries (by omega))

theorem close_eq_closing {channel : SecureChannel S} {requests : List Request}
    {connection : Connection (Recorded (SecureChannel S))}
    (start : connection.channel = channel.closing requests 0) :
    ∃ tries, (∀ earlier < tries, (channel.closing requests earlier).channel.close.1 ≠ .finished) ∧
      (channel.closing requests tries).channel.close.1 = .finished ∧
      connection.close.2 = channel.closing requests (tries + 1) := by
  obtain ⟨tries, held, finished, closed⟩ :=
    Connection.closeWithin_eq_serve connection.channel (Nat.le_refl _) 0
  simp only [start, serve_closing] at held finished closed
  refine ⟨tries, held, finished, ?_⟩
  unfold Connection.close
  rw [start]
  exact closed

structure Ended (made : List Sealed) (channel : SecureChannel (Sealing S)) : Prop where
  carried : channel.session.Carried channel.socket
  records : channel.session.records = made
  announced : channel.endAnnounced = true

theorem records_flush (session : Sealing S) (socket : Socket) :
    (flush session socket).2.1.records = session.records := by
  fun_induction flush session socket with
  | case1 | case4 | case5 => rfl
  | case2 session socket some count took ih => exact ih
  | case3 session socket some interrupted ih => exact ih

theorem ended_close (queues : Session.Queues S) {channel next : SecureChannel (Sealing S)}
    {closure : Closure} (answer : channel.close = (closure, next))
    (carried : channel.announced.Carried channel.socket) : next.Ended channel.announced.records := by
  obtain ⟨outcome, rest, flushed, announced, settled⟩ := of_close answer
  have whole : next.session.Carried rest :=
    conveyed_of_flush (Sealing.conveys_carried queues) flushed carried
  have records := records_flush channel.announced channel.socket
  rw [flushed] at records
  refine ⟨?_, records, announced⟩
  -- Shutting down sends nothing.
  rcases settled with ⟨-, -, same⟩ | ⟨-, -, same⟩
  all_goals
    rw [same]
    exact whole

def notice (session : S) : Bytes :=
  (Session.output (Session.announceEnd session)).drop (Session.output session).length

theorem ended_closing (queues : Session.Queues S) {channel : SecureChannel (Sealing S)}
    {requests : List Request} (underway : (channel.closing requests 0).channel.Underway) (tries : Nat) :
    (channel.closing requests (tries + 1)).channel.Ended
      ((channel.closing requests 0).channel.session.records ++
        [⟨.ending, notice (channel.closing requests 0).channel.session.session⟩]) := by
  obtain ⟨underway, going⟩ := underway
  induction tries with
  | zero =>
    have announced : (channel.closing requests 0).channel.announced =
        Session.announceEnd (channel.closing requests 0).channel.session := by
      rw [announced, going]
      rfl
    have first := ended_close queues (channel.close_closing requests 0)
      (announced ▸ underway.carried.note .ending (queues.announceEnd _))
    rw [announced] at first
    exact first
  | succ tries ih =>
    have announced : (channel.closing requests (tries + 1)).channel.announced =
        (channel.closing requests (tries + 1)).channel.session := by
      rw [announced, ih.announced]
      rfl
    have later := ended_close queues (channel.close_closing requests (tries + 1)) (announced ▸ ih.carried)
    rw [announced, ih.records] at later
    exact later

theorem carried_closing (queues : Session.Queues S) {channel : SecureChannel (Sealing S)}
    {requests : List Request} (underway : (channel.closing requests 0).channel.Underway) (tries : Nat) :
    (channel.closing requests tries).channel.session.Carried
      (channel.closing requests tries).channel.socket := by
  cases tries with
  | zero => exact underway.1.carried
  | succ tries => exact (ended_closing queues underway tries).carried

theorem closing_eq_sealing (channel : SecureChannel S) (requests : List Request) (tries : Nat) :
    channel.closing requests tries =
      (channel.sealing.closing requests tries).map (·.map Sealing.session) :=
  Recorded.serve_erase Sealing.erases_session { channel := channel.sealing } _

theorem end_announced_once_and_all_sent (queues : Session.Queues S) (channel : SecureChannel S)
    (going : channel.endAnnounced = false) (unshut : channel.socket.isShutDown = false)
    {requests : List Request} (unclosed : .close ∉ requests) :
    let served := channel.closing requests
    let made (tries : Nat) := channel.sealedBy (requests ++ List.replicate tries .close)
    let answer (tries : Nat) := (Channel.close (served tries).channel).1
    ∃ notice : Bytes,
      (∀ record ∈ made 0, record.purpose ≠ .ending) ∧
      (∀ tries, made (tries + 1) = made 0 ++ [⟨.ending, notice⟩]) ∧
      (∀ tries, (made tries).flatMap Sealed.encoding =
        (served tries).channel.socket.sent ++ Session.output (served tries).channel.session) ∧
      (∀ tries, (∀ earlier < tries, answer earlier ≠ .finished) →
        (served tries).channel.socket.isShutDown = false ∧
        ∃ answers rest, (served tries).channel.socket.Wrote answers rest ∧
          (answer tries = .blocked .write ∧ answers.getLast? = some .blocked ∧
              (served (tries + 1)).channel.socket = rest ∨
            answer tries = .finished ∧ (served (tries + 1)).channel.socket = rest.shutDown ∧
              ((∃ why, .failed why ∈ answers) ∨
                Session.output (served (tries + 1)).channel.session = [] ∧
                  (served (tries + 1)).channel.socket.sent =
                    (made 0).flatMap Sealed.encoding ++ notice))) ∧
      ∀ connection : Connection (Recorded (SecureChannel S)), connection.channel = served 0 →
        ∃ tries, (∀ earlier < tries, answer earlier ≠ .finished) ∧ answer tries = .finished ∧
          connection.close.2 = served (tries + 1) := by
  intro served made answer
  have underway : (channel.sealing.closing requests 0).channel.Underway := by
    unfold closing
    rw [List.replicate_zero, List.append_nil]
    exact underway_serve queues unclosed (underway_sealing going unshut)
  obtain ⟨notice, ending⟩ : ∃ notice, ∀ tries,
      made (tries + 1) = made 0 ++ [Sealed.mk .ending notice] :=
    ⟨_, fun tries => (ended_closing queues underway tries).records⟩
  have whole : ∀ tries, (made tries).flatMap Sealed.encoding =
      (served tries).channel.socket.sent ++ Session.output (served tries).channel.session := by
    intro tries
    simp only [served, closing_eq_sealing channel]
    exact carried_closing queues underway tries
  refine ⟨notice, underway.1.unended, ending, whole, ?_, fun connection => close_eq_closing⟩
  intro tries held
  have started : (channel.closing requests 0).channel.socket.isShutDown = false := by
    rw [closing_eq_sealing]
    exact underway.1.unshut
  obtain ⟨answers, rest, wrote, settled⟩ := settled_close (channel.close_closing requests tries)
  refine ⟨unshut_closing started held, answers, rest, wrote, ?_⟩
  rcases settled with blocked | ⟨finished, shut, failed | none⟩
  · exact .inl blocked
  · exact .inr ⟨finished, shut, .inl failed⟩
  · refine .inr ⟨finished, shut, .inr ⟨none, ?_⟩⟩
    have all := whole (tries + 1)
    rw [none, List.append_nil, ending, List.flatMap_append] at all
    rw [← all]
    simp

-- The close begins in the middle of a write that is held up, and is held up itself at first. The peer
-- can read what was written, and then the end.
theorem end_announced_once_behind_blocked_write :
    let channel : SecureChannel ClearSession :=
      { session := { capacity := 2 }
        socket :=
          { room := [.done 1, .blocked, .interrupted, .done 2, .blocked, .done 9] }
        peer := ⟨.loopback, 0⟩ }
    let requests : List Request := [.write [7, 8, 9]]
    let served := channel.closing requests
    Session.Queues ClearSession ∧ channel.endAnnounced = false ∧
      channel.socket.isShutDown = false ∧ .close ∉ requests ∧
      (served 0).channel.unflushed = 2 ∧ (served 0).channel.close.1 = .blocked .write ∧
      (served 1).channel.socket.isShutDown = false ∧ (served 1).channel.close.1 = .finished ∧
      ∃ notice, channel.sealedBy (requests ++ [.close, .close]) =
          channel.sealedBy requests ++ [⟨.ending, notice⟩] ∧
        (served 2).channel.socket.sent =
          (channel.sealedBy requests).flatMap Sealed.encoding ++ notice ∧
        ClearSession.decode (served 2).channel.socket.sent = ([7, 8], [], .over) := by
  intro channel requests served
  have unclosed : .close ∉ requests := by decide
  obtain ⟨notice, -, ending, whole, settled, -⟩ :=
    end_announced_once_and_all_sent ClearSession.queues channel rfl rfl unclosed
  have held : (served 0).channel.close.1 = .blocked .write := by decide +kernel
  have finished : (served 1).channel.close.1 = .finished := by decide +kernel
  have none : Session.output (served 2).channel.session = [] := by decide +kernel
  have read : ClearSession.decode (served 2).channel.socket.sent = ([7, 8], [], .over) := by
    decide +kernel
  have unshut := (settled 1 fun earlier few => by
    obtain rfl : earlier = 0 := by omega
    exact fun early => by cases held.symm.trans early).1
  have all := whole 2
  rw [none, List.append_nil, ending 1, List.flatMap_append, List.flatMap_singleton] at all
  exact ⟨ClearSession.queues, rfl, rfl, unclosed, by decide +kernel, held, unshut, finished, notice,
    ending 1, all.symm, read⟩

end SecureChannel

end SecureEcho
