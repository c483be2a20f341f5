import Mathlib.Data.List.Basic
import SecureEcho.Channel.Secure
import SecureEcho.Session

namespace SecureEcho

def SocketCall.blockedIn : Direction → SocketCall
  | .read => { isWrite := false, isBlocked := true }
  | .write => { isWrite := true, isBlocked := true }

-- `plaintext` shows what a session holds for its reader. It says that there is nothing only if there is
-- nothing; and asking it brings about neither plaintext nor records where there were none.
structure Session.Candid {S : Type} [Session S] (plaintext : S → Bytes) : Prop where
  nothing : ∀ {session later : S} {count : Nat},
    Session.deliver session count = (.nothing, later) → plaintext session = []
  plaintext_deliver : ∀ (session : S) (count : Nat), plaintext session = [] →
    plaintext (Session.deliver session count).2 = []
  output_deliver : ∀ (session : S) (count : Nat), Session.output session = [] →
    Session.output (Session.deliver session count).2 = []

namespace Socket

def Extends (before after : Socket) : Prop := ∃ made, after.calls = before.calls ++ made

def EndsIn (before after : Socket) (last : SocketCall) : Prop :=
  ∃ made, after.calls = before.calls ++ made ∧ made.getLast? = some last

theorem Extends.refl (socket : Socket) : socket.Extends socket := ⟨[], by simp⟩

theorem Extends.trans {one two three : Socket} (left : one.Extends two) (right : two.Extends three) :
    one.Extends three := by
  obtain ⟨first, calls⟩ := left
  obtain ⟨second, later⟩ := right
  exact ⟨first ++ second, by rw [later, calls, List.append_assoc]⟩

theorem EndsIn.extends {before after : Socket} {last : SocketCall} (ends : before.EndsIn after last) :
    before.Extends after := by
  obtain ⟨made, calls, -⟩ := ends
  exact ⟨made, calls⟩

theorem Extends.endsIn {one two three : Socket} {last : SocketCall} (left : one.Extends two)
    (right : two.EndsIn three last) : one.EndsIn three last := by
  obtain ⟨first, calls⟩ := left
  obtain ⟨second, later, ends⟩ := right
  refine ⟨first ++ second, by rw [later, calls, List.append_assoc], ?_⟩
  rw [List.getLast?_append, ends]
  rfl

theorem endsIn_read (socket : Socket) : socket.EndsIn socket.read.2 ⟨false, isBlocked socket.read.1⟩ :=
  ⟨[_], rfl, rfl⟩

theorem endsIn_write (socket : Socket) (offer : Bytes) :
    socket.EndsIn (socket.write offer).2 ⟨true, isBlocked (socket.write offer).1⟩ := by
  unfold write
  dsimp only
  split <;> exact ⟨[_], rfl, by simp_all [isBlocked]⟩

end Socket

theorem ClearSession.candid : Session.Candid ClearSession.plaintext where
  nothing := by
    intro session later count answer
    replace answer : session.deliver count = (.nothing, later) := answer
    unfold deliver at answer
    split at answer
    · cases answer
    · rename_i none
      simp_all
  plaintext_deliver := by
    intro session count none
    show (session.deliver count).2.plaintext = []
    unfold deliver
    split
    · simp [none]
    · split
      · exact none
      · split <;> exact none
  output_deliver := by
    intro session count none
    show (session.deliver count).2.output = []
    unfold deliver
    split
    · exact none
    · split
      · exact none
      · split <;> exact none

namespace SecureChannel

variable {S : Type} [Session S] {plaintext : S → Bytes}

open Socket (Extends EndsIn)

theorem extends_flush (session : S) (socket : Socket) : socket.Extends (flush session socket).2.2 := by
  fun_induction flush session socket with
  | case1 session socket none => exact .refl socket
  | case2 session socket _ _ _ ih | case3 session socket _ _ ih =>
    exact (socket.endsIn_write _).extends.trans ih
  | case4 session socket | case5 session socket => exact (socket.endsIn_write _).extends

theorem output_flush {session : S} {socket : Socket} (finished : (flush session socket).1 = .finished) :
    Session.output (flush session socket).2.1 = [] := by
  fun_induction flush session socket with
  | case1 session socket none => exact none
  | case2 session socket _ _ _ ih | case3 session socket _ _ ih => exact ih finished
  | case4 | case5 => cases finished

theorem blocked_flush {session : S} {socket : Socket} (blocked : (flush session socket).1 = .blocked) :
    socket.EndsIn (flush session socket).2.2 (.blockedIn .write) ∧
      Session.output (flush session socket).2.1 ≠ [] := by
  fun_induction flush session socket with
  | case1 | case5 => cases blocked
  | case2 session socket _ _ _ ih | case3 session socket _ _ ih =>
    obtain ⟨ends, waits⟩ := ih blocked
    exact ⟨(socket.endsIn_write _).extends.endsIn ends, waits⟩
  | case4 session socket some full =>
    have ends := socket.endsIn_write (Session.output session)
    rw [full] at ends
    exact ⟨ends, some⟩

theorem extends_receive (socket : Socket) : socket.Extends (receive socket).2 := by
  fun_induction receive socket with
  | case1 socket interrupted ih => exact socket.endsIn_read.extends.trans ih
  | case2 socket => exact socket.endsIn_read.extends

theorem receive_ne_interrupted (socket : Socket) : (receive socket).1 ≠ .interrupted := by
  fun_induction receive socket with
  | case1 socket interrupted ih => exact ih
  | case2 socket other => exact other

theorem blocked_receive {socket : Socket} (blocked : (receive socket).1 = .blocked) :
    socket.EndsIn (receive socket).2 (.blockedIn .read) := by
  fun_induction receive socket with
  | case1 socket interrupted ih => exact socket.endsIn_read.extends.endsIn (ih blocked)
  | case2 socket other =>
    have ends := socket.endsIn_read
    rw [blocked] at ends
    exact ends

theorem extends_nudge (session : S) (socket : Socket) : socket.Extends (nudge session socket).2 := by
  have call := (socket.endsIn_write (Session.output session)).extends
  unfold nudge
  split
  · exact .refl socket
  · split
    · rename_i answer
      rw [answer] at call
      exact call
    · rename_i answer
      rw [answer] at call
      exact call

theorem extends_digest (session : S) (socket : Socket) (count : Nat) :
    socket.Extends (digest session socket count).2.2 := by
  unfold digest
  split
  · exact extends_nudge _ socket
  · exact .refl socket

theorem extends_fill (session : S) (socket : Socket) : socket.Extends (fill session socket).2.2 := by
  have came := extends_receive socket
  unfold fill
  cases Session.intake session with
  | refused why => exact .refl socket
  | «over» => exact extends_digest session socket 0
  | wanted =>
    rcases answer : receive socket with ⟨found, later⟩
    rw [answer] at came
    cases found with
    | done bytes => exact came.trans (extends_digest _ later _)
    | blocked | interrupted | failed why => exact came

theorem digest_ne_blocked (session : S) (socket : Socket) (count : Nat) :
    (digest session socket count).1 ≠ .blocked := by
  unfold digest
  split
  · simp
  · dsimp only
    split <;> simp

theorem blocked_fill {session : S} {socket : Socket} (blocked : (fill session socket).1 = .blocked) :
    socket.EndsIn (fill session socket).2.2 (.blockedIn .read) ∧
      (fill session socket).2.1 = session := by
  unfold fill at blocked ⊢
  cases intake : Session.intake session with
  | refused why =>
    rw [intake] at blocked
    cases blocked
  | «over» =>
    rw [intake] at blocked
    exact absurd blocked (digest_ne_blocked session socket 0)
  | wanted =>
    rcases answer : receive socket with ⟨found, later⟩
    simp only [intake, answer] at blocked ⊢
    cases found with
    | done bytes => exact absurd blocked (digest_ne_blocked _ later _)
    | interrupted => exact absurd (congrArg Prod.fst answer) (receive_ne_interrupted socket)
    | failed why => cases blocked
    | blocked =>
      have ends := blocked_receive (congrArg Prod.fst answer)
      rw [answer] at ends
      exact ⟨ends, rfl⟩

theorem blocked_of_flush {session later : S} {socket rest : Socket}
    (flushed : flush session socket = (.blocked, later, rest)) :
    socket.EndsIn rest (.blockedIn .write) ∧ Session.output later ≠ [] := by
  have blocked := blocked_flush (congrArg Prod.fst flushed)
  rwa [flushed] at blocked

theorem blocked_read (candid : Session.Candid plaintext) (channel : SecureChannel S) (target : Bytes) :
    ∀ want, (channel.read target).1 = .blocked want →
      channel.socket.EndsIn (channel.read target).2.2.socket (.blockedIn want) ∧
        match want with
        | .write => Session.output (channel.read target).2.2.session ≠ []
        | .read => plaintext (channel.read target).2.2.session = [] ∧
            Session.output (channel.read target).2.2.session = [] := by
  fun_induction read channel target with
  | case1 channel later rest flushed =>
    intro want blocked
    cases blocked
    exact blocked_of_flush flushed
  | case2 | case3 | case4 | case5 | case6 | case8 | case9 | case11 =>
    intro want blocked
    cases blocked
  | case7 channel session socket flushed asked delivered taken rest filled ih =>
    intro want blocked
    have sent := extends_flush channel.session channel.socket
    have came := extends_fill asked socket
    rw [flushed] at sent
    rw [filled] at came
    obtain ⟨ends, left⟩ := ih want blocked
    exact ⟨(sent.trans came).endsIn ends, left⟩
  | case10 channel session socket flushed asked delivered taken rest filled =>
    intro want blocked
    cases blocked
    have sent := extends_flush channel.session channel.socket
    have none := output_flush (congrArg Prod.fst flushed)
    obtain ⟨ends, same⟩ := blocked_fill (congrArg Prod.fst filled)
    rw [flushed] at sent none
    rw [filled] at ends same
    have same : taken = asked := same
    have dry := candid.plaintext_deliver session target.length (candid.nothing delivered)
    have quiet := candid.output_deliver session target.length none
    rw [delivered] at dry quiet
    rw [← same] at dry quiet
    exact ⟨sent.endsIn ends, dry, quiet⟩

theorem blocked_confirm (channel : SecureChannel S) {next : SecureChannel S} {want : Direction}
    (blocked : channel.confirm = (.blocked want, next)) :
    want = .write ∧ channel.socket.EndsIn next.socket (.blockedIn .write) ∧
      Session.output next.session ≠ [] := by
  unfold confirm at blocked
  split at blocked
  all_goals
    rename_i flushed
    cases blocked
  exact ⟨rfl, blocked_of_flush flushed⟩

theorem blocked_write (channel : SecureChannel S) (offer : Bytes) {next : SecureChannel S}
    {want : Direction} (blocked : channel.write offer = (.blocked want, next)) :
    want = .write ∧ channel.socket.EndsIn next.socket (.blockedIn .write) ∧
      Session.output next.session ≠ [] := by
  unfold write at blocked
  split at blocked
  · exact blocked_confirm channel blocked
  · split at blocked
    · cases blocked
    · split at blocked
      · cases blocked
      · have settled := blocked_confirm _ blocked
        exact settled

theorem blocked_close (channel : SecureChannel S) {next : SecureChannel S} {want : Direction}
    (blocked : channel.close = (.blocked want, next)) :
    want = .write ∧ channel.socket.EndsIn next.socket (.blockedIn .write) ∧
      Session.output next.session ≠ [] := by
  unfold close at blocked
  dsimp only at blocked
  split at blocked
  · rename_i flushed
    cases blocked
    exact ⟨rfl, blocked_of_flush flushed⟩
  · cases blocked

theorem blocked_as_socket_with_nothing_left (candid : Session.Candid plaintext)
    (channel : SecureChannel S) :
    (∀ target filled next, channel.read target = (.blocked .write, filled, next) →
        channel.socket.EndsIn next.socket (.blockedIn .write) ∧ Session.output next.session ≠ []) ∧
      (∀ target filled next, channel.read target = (.blocked .read, filled, next) →
        channel.socket.EndsIn next.socket (.blockedIn .read) ∧ plaintext next.session = [] ∧
          Session.output next.session = []) ∧
      (∀ offer want next, channel.write offer = (.blocked want, next) →
        want = .write ∧ channel.socket.EndsIn next.socket (.blockedIn .write) ∧
          Session.output next.session ≠ []) ∧
      ∀ want next, channel.close = (.blocked want, next) →
        want = .write ∧ channel.socket.EndsIn next.socket (.blockedIn .write) ∧
          Session.output next.session ≠ [] := by
  refine ⟨?_, ?_, fun offer want next => channel.blocked_write offer, fun want next => channel.blocked_close⟩
  · intro target filled next answer
    have waits := blocked_read candid channel target .write (by rw [answer])
    rwa [answer] at waits
  · intro target filled next answer
    have waits := blocked_read candid channel target .read (by rw [answer])
    rwa [answer] at waits

-- The records go out in two tries, and half a record comes in.
theorem blocked_as_socket_in_both_directions :
    let channel : SecureChannel ClearSession :=
      { session := { output := [9, 9, 9] }
        socket :=
          { incoming := [.interrupted, .done [1], .blocked]
            room := [.done 1, .interrupted, .blocked, .done 5] }
        peer := ⟨.loopback, 0⟩ }
    let sending := (channel.read [0]).2.2
    let waiting := (sending.read [0]).2.2
    Session.Candid ClearSession.plaintext ∧
      (channel.read [0]).1 = .blocked .write ∧
      channel.socket.EndsIn sending.socket (.blockedIn .write) ∧ Session.output sending.session ≠ [] ∧
      (sending.read [0]).1 = .blocked .read ∧
      sending.socket.EndsIn waiting.socket (.blockedIn .read) ∧ waiting.session.plaintext = [] ∧
      Session.output waiting.session = [] := by
  intro channel sending waiting
  have first : (channel.read [0]).1 = .blocked .write := by decide +kernel
  have second : (sending.read [0]).1 = .blocked .read := by decide +kernel
  obtain ⟨sends, -⟩ := blocked_as_socket_with_nothing_left ClearSession.candid channel
  obtain ⟨-, waits, -⟩ := blocked_as_socket_with_nothing_left ClearSession.candid sending
  obtain ⟨ends, some⟩ := sends [0] _ sending (Prod.ext first rfl)
  obtain ⟨stops, dry, quiet⟩ := waits [0] _ waiting (Prod.ext second rfl)
  exact ⟨ClearSession.candid, first, ends, some, second, stops, dry, quiet⟩

end SecureChannel

end SecureEcho
