import Mathlib.Data.List.Basic
import SecureEcho.Proofs.Channel.Erasure
import SecureEcho.Proofs.Channel.Invariant

namespace SecureEcho

-- A part of a session that nothing changes but handing it plaintext.
structure Session.Quiet {S : Type} [Session S] {α : Type} (view : S → α) : Prop where
  drain : ∀ session count, view (Session.drain session count) = view session
  feed : ∀ session bytes, view (Session.feed session bytes) = view session
  digest : ∀ session, view (Session.digest session).2 = view session
  deliver : ∀ session count, view (Session.deliver session count).2 = view session
  announceEnd : ∀ session, view (Session.announceEnd session) = view session

theorem Session.Quiet.keeps {S : Type} [Session S] {α : Type} {view : S → α} (quiet : Session.Quiet view)
    (value : α) : Session.Keeps fun session => view session = value where
  drain count same := (quiet.drain _ count).trans same
  feed bytes same := (quiet.feed _ bytes).trans same
  digest same := (quiet.digest _).trans same

-- What a session takes of the plaintext it is given are its first bytes.
def Session.TakesFirst (S : Type) [Session S] : Prop :=
  ∀ (session later : S) (bytes : Bytes) (count : Nat),
    Session.accept session bytes = (.ok count, later) → count ≤ bytes.length

namespace SecureChannel

variable {S : Type} [Session S] {α : Type} {view : S → α}

theorem view_read (quiet : Session.Quiet view) (channel : SecureChannel S) (target : Bytes) :
    view (channel.read target).2.2.session = view channel.session ∧
      (channel.read target).2.2.unflushed = channel.unflushed := by
  have delivering : ∀ session count, view session = view channel.session →
      view (Session.deliver session count).2 = view channel.session :=
    fun session count same => (quiet.deliver session count).trans same
  exact ⟨holds_read (quiet.keeps _) delivering channel target rfl, unflushed_read channel target⟩

end SecureChannel

structure Tallied (S : Type) where
  session : S
  taken : Bytes := []
deriving DecidableEq, Repr

namespace Tallied

variable {S : Type} [Session S]

instance : Session (Tallied S) where
  output tallied := Session.output tallied.session
  drain tallied count := { tallied with session := Session.drain tallied.session count }
  intake tallied := Session.intake tallied.session
  feed tallied bytes := { tallied with session := Session.feed tallied.session bytes }
  digest tallied :=
    let (fault, session) := Session.digest tallied.session
    (fault, { tallied with session })
  deliver tallied count :=
    let (delivery, session) := Session.deliver tallied.session count
    (delivery, { tallied with session })
  accept tallied bytes :=
    match Session.accept tallied.session bytes with
    | (.ok count, session) => (.ok count, ⟨session, tallied.taken ++ bytes.take count⟩)
    | (.error why, session) => (.error why, { tallied with session })
  announceEnd tallied := { tallied with session := Session.announceEnd tallied.session }

theorem erases_session : Session.Erases (Tallied.session : Tallied S → S) where
  output _ := rfl
  drain _ _ := rfl
  intake _ := rfl
  feed _ _ := rfl
  digest _ := rfl
  deliver _ _ := rfl
  accept := by
    intro tallied bytes
    rcases answer : Session.accept tallied.session bytes with ⟨_ | count, later⟩
    all_goals simp [Session.accept, answer]
  announceEnd _ := rfl

theorem quiet_taken : Session.Quiet (Tallied.taken : Tallied S → Bytes) where
  drain _ _ := rfl
  feed _ _ := rfl
  digest _ := rfl
  deliver _ _ := rfl
  announceEnd _ := rfl

theorem taken_read (channel : SecureChannel (Tallied S)) (target : Bytes) :
    (channel.read target).2.2.session.taken = channel.session.taken ∧
      (channel.read target).2.2.unflushed = channel.unflushed :=
  SecureChannel.view_read quiet_taken channel target

theorem of_accept_ok {tallied later : Tallied S} {bytes : Bytes} {count : Nat}
    (accepted : Session.accept tallied bytes = (.ok count, later)) :
    later.taken = tallied.taken ++ bytes.take count ∧
      Session.accept tallied.session bytes = (.ok count, later.session) := by
  rcases inner : Session.accept tallied.session bytes with ⟨_ | taken, session⟩
  all_goals
    simp only [Session.accept, inner] at accepted
    cases accepted
  exact ⟨rfl, rfl⟩

theorem of_accept_error {tallied later : Tallied S} {bytes : Bytes} {why : IoError}
    (refused : Session.accept tallied bytes = (.error why, later)) : later.taken = tallied.taken := by
  rcases inner : Session.accept tallied.session bytes with ⟨_ | taken, session⟩
  all_goals
    simp only [Session.accept, inner] at refused
    cases refused
  rfl

theorem of_confirm {channel next : SecureChannel (Tallied S)} {outcome : Transfer}
    (answer : channel.confirm = (outcome, next)) :
    next.session.taken = channel.session.taken ∧
      (outcome = .progressed channel.unflushed ∧ next.unflushed = 0 ∨
        (∀ count, outcome ≠ .progressed count) ∧ next.unflushed = channel.unflushed) := by
  have kept := SecureChannel.holds_of_confirm (quiet_taken.keeps channel.session.taken) answer rfl
  unfold SecureChannel.confirm at answer
  split at answer
  all_goals cases answer
  · exact ⟨kept, .inl ⟨rfl, rfl⟩⟩
  · exact ⟨kept, .inr ⟨by simp, rfl⟩⟩
  · exact ⟨kept, .inr ⟨by simp, rfl⟩⟩

theorem of_write (takes : Session.TakesFirst S) {channel next : SecureChannel (Tallied S)} {offer confirmed : Bytes} {outcome : Transfer}
    (owed : channel.unflushed ≤ offer.length)
    (taken : channel.session.taken = confirmed ++ offer.take channel.unflushed)
    (answer : channel.write offer = (outcome, next)) :
    ∃ count, count ≤ offer.length ∧ next.session.taken = confirmed ++ offer.take count ∧
      (outcome = .progressed count ∧ next.unflushed = 0 ∨
        (∀ moved, outcome ≠ .progressed moved) ∧ next.unflushed = count) := by
  unfold SecureChannel.write at answer
  split at answer
  · obtain ⟨kept, settled⟩ := of_confirm answer
    exact ⟨channel.unflushed, owed, kept.trans taken, settled⟩
  · rename_i none
    have none : channel.unflushed = 0 := by simpa using none
    split at answer
    · cases answer
      exact ⟨0, Nat.zero_le _, none ▸ taken, .inl ⟨rfl, none⟩⟩
    · split at answer
      · rename_i why session refused
        cases answer
        have kept := of_accept_error refused
        rw [none] at taken
        exact ⟨0, Nat.zero_le _, kept.trans taken, .inr ⟨by simp, none⟩⟩
      · rename_i count session accepted
        obtain ⟨added, inner⟩ := of_accept_ok accepted
        obtain ⟨kept, settled⟩ := of_confirm answer
        refine ⟨count, takes _ _ _ _ inner, ?_, settled⟩
        rw [kept, added, taken, none, List.take_zero, List.append_nil]

end Tallied

end SecureEcho
