import Mathlib.Data.List.Induction
import Mathlib.Data.List.Range
import SecureEcho.Proofs.Registry.Ledger

namespace SecureEcho

inductive Turnover where
  | taken (key : Nat)
  | freed (key : Nat)
deriving DecidableEq, Repr

namespace Turnover

-- The key was freed, and has not been taken since.
def Idle (history : List Turnover) (key : Nat) : Prop :=
  ∃ earlier later, history = earlier ++ freed key :: later ∧ taken key ∉ later

-- An idle key, with none that was freed after it and is idle as well.
def FreedLast (history : List Turnover) (key : Nat) : Prop :=
  ∃ earlier later, history = earlier ++ freed key :: later ∧ taken key ∉ later ∧
    ∀ other, ¬ Idle later other

def FirstUnused (history : List Turnover) (key : Nat) : Prop :=
  taken key ∉ history ∧ ∀ below < key, taken below ∈ history

def idle (history : List Turnover) : List Nat :=
  history.foldl (fun keys turnover =>
    match turnover with
    | taken key => keys.filter (· != key)
    | freed key => key :: keys) []

theorem idle_taken (history : List Turnover) (key : Nat) :
    idle (history ++ [taken key]) = (idle history).filter (· != key) := by
  simp [idle]

theorem idle_freed (history : List Turnover) (key : Nat) :
    idle (history ++ [freed key]) = key :: idle history := by
  simp [idle]

theorem not_idle_nil (key : Nat) : ¬ Idle [] key := by
  rintro ⟨earlier, later, split, -⟩
  simp at split

theorem of_idle_append {history : List Turnover} {last : Turnover} {key : Nat}
    (still : Idle (history ++ [last]) key) :
    last = freed key ∨ Idle history key ∧ last ≠ taken key := by
  obtain ⟨earlier, later, split, left⟩ := still
  rcases List.eq_nil_or_concat later with rfl | ⟨front, final, rfl⟩
  · obtain ⟨-, same⟩ := List.append_inj' split rfl
    exact .inl (List.head_eq_of_cons_eq same)
  · have split : history ++ [last] = (earlier ++ freed key :: front) ++ [final] := by simpa using split
    obtain ⟨rfl, same⟩ := List.append_inj' split rfl
    obtain rfl : last = final := List.head_eq_of_cons_eq same
    refine .inr ⟨⟨earlier, front, rfl, fun member => left (by simp [member])⟩, ?_⟩
    rintro rfl
    exact left (by simp)

-- What stands before a key in the list are the keys that were freed after it and are idle as well.
theorem split_of_idle {history : List Turnover} {front rest : List Nat} {key : Nat}
    (listed : idle history = front ++ key :: rest) :
    ∃ earlier later, history = earlier ++ freed key :: later ∧ taken key ∉ later ∧
      ∀ other, Idle later other → other ∈ front := by
  induction history using List.reverseRecOn generalizing front rest with
  | nil => simp [idle] at listed
  | append_singleton before last ih =>
    cases last with
    | taken other =>
      rw [idle_taken, List.filter_eq_append_iff] at listed
      obtain ⟨before_front, before_rest, split, kept, remains⟩ := listed
      obtain ⟨dropped, tail, rfl, gone, apart, -⟩ := List.filter_eq_cons_iff.mp remains
      have apart : key ≠ other := by simpa using apart
      have split : idle before = (before_front ++ dropped) ++ key :: tail := by simpa using split
      obtain ⟨earlier, later, rfl, left, above⟩ := ih split
      refine ⟨earlier, later ++ [taken other], by simp, by simpa [left] using apart, ?_⟩
      intro rival still
      obtain ⟨still, distinct⟩ := (of_idle_append still).resolve_left (by simp)
      have distinct : rival ≠ other := fun same => distinct (same ▸ rfl)
      rcases List.mem_append.mp (above rival still) with stays | goes
      · rw [← kept]
        simpa [stays] using distinct
      · exact absurd distinct (by simpa using gone rival goes)
    | freed other =>
      rw [idle_freed] at listed
      cases front with
      | nil =>
        obtain ⟨rfl, -⟩ := List.cons.inj listed
        refine ⟨before, [], rfl, by simp, ?_⟩
        intro rival still
        exact absurd still (not_idle_nil rival)
      | cons first front =>
        obtain ⟨same, below⟩ := List.cons.inj listed
        obtain ⟨earlier, later, rfl, left, above⟩ := ih below
        refine ⟨earlier, later ++ [freed other], by simp, by simpa using left, ?_⟩
        intro rival still
        rcases of_idle_append still with latest | ⟨still, -⟩
        · cases latest
          exact same ▸ List.mem_cons_self
        · exact List.mem_cons_of_mem _ (above rival still)

theorem freedLast_of_idle {history : List Turnover} {key : Nat} {rest : List Nat}
    (listed : idle history = key :: rest) : FreedLast history key := by
  have first : idle history = [] ++ key :: rest := listed
  obtain ⟨earlier, later, split, left, above⟩ := split_of_idle first
  exact ⟨earlier, later, split, left, fun other still => by cases above other still⟩

theorem mem_idle {history : List Turnover} {key : Nat} (still : Idle history key) :
    key ∈ idle history := by
  induction history using List.reverseRecOn with
  | nil => exact absurd still (not_idle_nil key)
  | append_singleton before last ih =>
    cases last with
    | taken other =>
      obtain ⟨still, apart⟩ := (of_idle_append still).resolve_left (by simp)
      have apart : key ≠ other := fun same => apart (same ▸ rfl)
      rw [idle_taken]
      simpa [ih still] using apart
    | freed other =>
      rw [idle_freed]
      rcases of_idle_append still with latest | ⟨still, -⟩
      · cases latest
        exact List.mem_cons_self
      · exact List.mem_cons_of_mem _ (ih still)

end Turnover

end SecureEcho
