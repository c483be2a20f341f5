import SecureEcho.Connection
import SecureEcho.Proofs.Channel.Record

namespace SecureEcho

namespace Recorded

variable {C : Type}

def Unclosed (record : Recorded C) : Prop := ∀ call ∈ record.calls, call.isClose = false

-- The calls end with one close that finished. Attempts that were held up come right before it, and
-- there were no others.
def ClosedOnce (record : Recorded C) : Prop :=
  ∃ (earlier : List Call) (wants : List Direction),
    record.calls = earlier ++ wants.map (fun want => .close (.blocked want)) ++ [.close .finished] ∧
      ∀ call ∈ earlier, call.isClose = false

theorem ClosedOnce.last {record : Recorded C} (closed : record.ClosedOnce) {before later : List Call}
    (calls : record.calls = before ++ .close .finished :: later) : later = [] := by
  obtain ⟨earlier, wants, ending, unclosed⟩ := closed
  rcases List.eq_nil_or_concat later with none | ⟨front, final, rfl⟩
  · exact none
  · have same : earlier ++ wants.map (fun want => .close (.blocked want)) ++ [.close .finished] =
        (before ++ .close .finished :: front) ++ [final] := by simpa using ending.symm.trans calls
    obtain ⟨front, -⟩ := List.append_inj' same rfl
    have member : Call.close .finished ∈ earlier ++ wants.map fun want => .close (.blocked want) := by
      rw [front]
      simp
    rcases List.mem_append.mp member with open_call | retried
    · cases unclosed _ open_call
    · obtain ⟨want, -, same⟩ := List.mem_map.mp retried
      cases same

theorem Unclosed.last {record : Recorded C} (unclosed : record.Unclosed) {before later : List Call}
    (calls : record.calls = before ++ .close .finished :: later) : later = [] := by
  have member : Call.close .finished ∈ record.calls := by
    rw [calls]
    simp
  cases unclosed _ member

end Recorded

namespace Connection

variable {C : Type} [Channel C] [Closable C]

omit [Closable C] in
theorem closeWithin_of_finished {channel next : C} (answer : Channel.close channel = (.finished, next))
    (left attempts : Nat) : closeWithin channel left attempts = ([], next) := by
  cases left <;> simp [closeWithin, answer]

theorem closeWithin_of_blocked {channel next : C} {want : Direction}
    (answer : Channel.close channel = (.blocked want, next)) {left : Nat}
    (enough : Closable.patience channel ≤ left) (attempts : Nat) :
    ∃ less, left = less + 1 ∧ Closable.patience next ≤ less ∧
      closeWithin channel left attempts =
        (.closeRetried want (attempts + 1) :: (closeWithin next less (attempts + 1)).1,
          (closeWithin next less (attempts + 1)).2) := by
  have fewer := Closable.patience_lt answer
  cases left with
  | zero => omega
  | succ less => exact ⟨less, rfl, by omega, by simp [closeWithin, answer]⟩

theorem closeWithin_calls (record : Recorded C) {left : Nat} (enough : Closable.patience record ≤ left)
    (attempts : Nat) :
    (closeWithin record left attempts).2.serial = record.serial ∧
      ∃ wants : List Direction, (closeWithin record left attempts).2.calls =
        record.calls ++ wants.map (fun want => .close (.blocked want)) ++ [.close .finished] := by
  induction left generalizing record attempts with
  | zero =>
    unfold closeWithin
    rcases answer : Channel.close record with ⟨outcome, next⟩
    cases outcome with
    | blocked want =>
      have fewer := Closable.patience_lt answer
      omega
    | finished =>
      obtain ⟨channel, -, rfl⟩ := Recorded.of_close answer
      exact ⟨rfl, [], by simp⟩
  | succ left ih =>
    unfold closeWithin
    rcases answer : Channel.close record with ⟨outcome, next⟩
    cases outcome with
    | finished =>
      obtain ⟨channel, -, rfl⟩ := Recorded.of_close answer
      exact ⟨rfl, [], by simp⟩
    | blocked want =>
      have fewer := Closable.patience_lt answer
      obtain ⟨serial, wants, calls⟩ := ih next (by omega) (attempts + 1)
      obtain ⟨channel, -, rfl⟩ := Recorded.of_close answer
      refine ⟨serial, want :: wants, ?_⟩
      rw [calls]
      simp

theorem close_serial (connection : Connection (Recorded C)) :
    connection.close.2.serial = connection.channel.serial :=
  (closeWithin_calls connection.channel (Nat.le_refl _) 0).1

theorem close_closedOnce {connection : Connection (Recorded C)}
    (unclosed : connection.channel.Unclosed) : connection.close.2.ClosedOnce := by
  obtain ⟨-, wants, calls⟩ := closeWithin_calls connection.channel (Nat.le_refl _) 0
  exact ⟨connection.channel.calls, wants, calls, unclosed⟩

theorem closeWithin_eq_serve (record : Recorded C) {left : Nat} (enough : Closable.patience record ≤ left)
    (attempts : Nat) :
    ∃ held, (∀ earlier < held,
        (Channel.close (record.serve (List.replicate earlier .close))).1 ≠ .finished) ∧
      (Channel.close (record.serve (List.replicate held .close))).1 = .finished ∧
      (closeWithin record left attempts).2 = record.serve (List.replicate (held + 1) .close) := by
  induction left generalizing record attempts with
  | zero =>
    rcases answer : Channel.close record with ⟨outcome, next⟩
    cases outcome with
    | blocked want =>
      have fewer := Closable.patience_lt answer
      omega
    | finished => exact ⟨0, by simp, congrArg Prod.fst answer, rfl⟩
  | succ left ih =>
    rcases answer : Channel.close record with ⟨outcome, next⟩
    cases outcome with
    | finished =>
      rw [closeWithin_of_finished answer]
      exact ⟨0, by simp, congrArg Prod.fst answer, (congrArg Prod.snd answer).symm⟩
    | blocked want =>
      have fewer := Closable.patience_lt answer
      obtain ⟨held, open_before, finished, closed⟩ := ih next (by omega) (attempts + 1)
      have next_eq : next = record.ask .close := (congrArg Prod.snd answer).symm
      subst next_eq
      refine ⟨held + 1, ?_, finished, ?_⟩
      · intro earlier few
        cases earlier with
        | zero => simp [Recorded.serve, answer]
        | succ earlier => exact open_before earlier (by omega)
      · simp only [closeWithin, answer]
        exact closed

theorem moved_close (connection : Connection (Recorded C)) :
    connection.close.2.delivered = connection.channel.delivered ∧
      connection.close.2.transmitted = connection.channel.transmitted := by
  obtain ⟨-, wants, calls⟩ := closeWithin_calls connection.channel (Nat.le_refl _) 0
  have calls : connection.close.2.calls = _ := calls
  have delivered : (wants.map fun want => Call.close (.blocked want)).flatMap Call.delivered = [] := by
    simp [Call.delivered]
  have transmitted : (wants.map fun want => Call.close (.blocked want)).flatMap Call.transmitted = [] := by
    simp [Call.transmitted]
  unfold Recorded.delivered Recorded.transmitted
  rw [calls]
  simp [delivered, transmitted, Call.delivered, Call.transmitted]

end Connection

end SecureEcho
