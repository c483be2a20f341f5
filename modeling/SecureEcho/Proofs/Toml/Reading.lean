import SecureEcho.Proofs.Toml.Distinct

namespace SecureEcho.Toml

namespace Reader

variable {α β : Type}

def Yields (Good : α → Prop) (reader : Reader α) : Prop :=
  ∀ ⦃cursor value next⦄, reader.run cursor = some (value, next) → Good value

theorem yields_any (reader : Reader α) : Yields (fun _ => True) reader := fun _ _ _ _ => trivial

theorem yields_pure {Good : α → Prop} {value : α} (good : Good value) : Yields Good (pure value) := by
  intro cursor result next read
  cases read
  exact good

theorem yields_failure (Good : α → Prop) : Yields Good failure := by
  intro cursor result next read
  cases read

theorem Yields.bind {Good : α → Prop} {Best : β → Prop} {first : Reader α} {next : α → Reader β}
    (yields : Yields Good first) (rest : ∀ value, Good value → Yields Best (next value)) :
    Yields Best (first >>= next) := by
  intro cursor result final read
  rw [StateT.run_bind] at read
  obtain ⟨⟨value, between⟩, one, later⟩ := Option.bind_eq_some_iff.mp read
  exact rest value (yields one) later

theorem Yields.map {Good : α → Prop} {Best : β → Prop} {reader : Reader α} {into : α → β}
    (yields : Yields Good reader) (better : ∀ value, Good value → Best (into value)) :
    Yields Best (into <$> reader) := by
  rw [← bind_pure_comp]
  exact yields.bind fun value good => yields_pure (better value good)

theorem Yields.seqLeft {Good : α → Prop} {reader : Reader α} (yields : Yields Good reader)
    (after : Reader β) : Yields Good (reader <* after) := by
  rw [seqLeft_eq_bind]
  exact yields.bind fun value good => (yields_any after).bind fun _ _ => yields_pure good

theorem Yields.seqRight {Good : α → Prop} {reader : Reader α} (yields : Yields Good reader)
    (before : Reader β) : Yields Good (before *> reader) := by
  rw [seqRight_eq_bind]
  exact (yields_any before).bind fun _ _ => yields

theorem Yields.orElse {Good : α → Prop} {first second : Reader α} (one : Yields Good first)
    (other : Yields Good second) : Yields Good (first <|> second) := by
  intro cursor value next read
  change (first.run cursor <|> second.run cursor) = some (value, next) at read
  cases found : first.run cursor with
  | some result =>
    rw [found] at read
    cases read
    exact one found
  | none =>
    rw [found] at read
    exact other read

theorem yields_some {Good : α → Prop} {reader : Reader α} (yields : Yields Good reader) :
    Yields (fun found => ∀ value ∈ found, Good value) (some <$> reader) :=
  yields.map fun _ good _ same => Option.some.inj same ▸ good

theorem yields_none (Good : α → Prop) :
    Yields (fun found : Option α => ∀ value ∈ found, Good value) (pure none) :=
  yields_pure fun _ none => by cases none

theorem Yields.optional {Good : α → Prop} {reader : Reader α} (yields : Yields Good reader) :
    Yields (fun found => ∀ value ∈ found, Good value) (Reader.optional reader) :=
  (yields_some yields).orElse (yields_none Good)

theorem Yields.repeatWithin {Good : α → Prop} {item : Reader α} (yields : Yields Good item)
    (budget : List Char) {done : List α} (good : ∀ value ∈ done, Good value) :
    Yields (fun values => ∀ value ∈ values, Good value) (Reader.repeatWithin item budget done) := by
  induction budget generalizing done with
  | nil => exact yields_pure fun value among => good value (List.mem_reverse.mp among)
  | cons _ budget ih =>
    intro cursor values next read
    simp only [Reader.repeatWithin, StateT.run] at read
    split at read
    · rename_i value between one
      exact ih (List.forall_mem_cons.mpr ⟨yields one, good⟩) read
    · cases read
      exact fun value among => good value (List.mem_reverse.mp among)

theorem Yields.many {Good : α → Prop} {item : Reader α} (yields : Yields Good item) :
    Yields (fun values => ∀ value ∈ values, Good value) (Reader.many item) :=
  fun cursor _ _ read => yields.repeatWithin cursor.rest (List.forall_mem_nil _) read

theorem Yields.separated {Good : α → Prop} {item : Reader α} (yields : Yields Good item)
    (separator : Reader β) :
    Yields (fun values => ∀ value ∈ values, Good value) (Reader.separated item separator) := by
  refine yields.optional.bind fun found good => ?_
  cases found with
  | none => exact yields_pure (List.forall_mem_nil _)
  | some first =>
    refine (yields.seqRight separator).many.bind fun later all => yields_pure ?_
    exact List.forall_mem_cons.mpr ⟨good first rfl, all⟩

theorem yields_assignment {value : Reader Node} (yields : Yields Node.Distinct value) :
    Yields (fun assignment => assignment.value.Distinct) (assignment value) := by
  refine (yields_any _).bind fun ⟨path, key⟩ _ => ?_
  refine (yields_any _).bind fun _ _ => (yields_any _).bind fun _ _ => ?_
  exact yields.bind fun node distinct => yields_pure distinct

theorem yields_value (depth : Nat) : Yields Node.Distinct (value depth) := by
  induction depth with
  | zero =>
    refine (yields_any _).bind fun position _ => (yields_any _).bind fun scalar _ => ?_
    exact yields_pure (.scalar position scalar)
  | succ depth ih =>
    refine (yields_any _).bind fun position _ => (yields_any _).bind fun next _ => ?_
    split
    · refine (yields_any _).bind fun _ _ => ?_
      refine ((ih.seqRight listSpace).seqLeft listSpace).separated _ |>.bind fun items each => ?_
      have closed : Yields Node.Distinct (do
          listSpace
          discard (char ']')
          return .list position items) :=
        (yields_any _).bind fun _ _ => (yields_any _).bind fun _ _ => yields_pure (.list position each)
      dsimp only
      split
      · exact (yields_any _).bind fun _ _ => closed
      · exact closed
    · refine (yields_any _).bind fun _ _ => ?_
      refine ((yields_assignment ih).seqLeft blanks).separated _ |>.bind fun assignments good => ?_
      refine (yields_any _).bind fun _ _ => (yields_any _).bind fun _ _ => ?_
      split
      · rename_i entries read
        exact yields_pure ((distinct_inlineEntries? good read).node _ _)
      · exact yields_failure _
    · refine (yields_any _).bind fun scalar _ => ?_
      exact yields_pure (.scalar position scalar)

theorem yields_header : Yields Statement.Distinct header := by
  refine (yields_any _).bind fun position _ => (yields_any _).bind fun twice _ => ?_
  split
  all_goals
    refine (yields_any _).bind fun _ _ => (yields_any _).bind fun ⟨path, key⟩ _ => ?_
    exact (yields_any _).bind fun _ _ => yields_pure trivial

theorem yields_line : Yields (fun said => ∀ statement ∈ said, statement.Distinct) line := by
  refine (yields_any _).bind fun _ _ => (yields_any _).bind fun next _ => ?_
  split
  · exact yields_failure _
  · exact (yields_some yields_header).seqLeft lineEnd
  · exact (yields_none _).seqRight lineEnd
  · exact (yields_none _).seqRight lineEnd
  · exact (yields_none _).seqRight lineEnd
  · refine Yields.seqLeft ((yields_assignment (yields_value depthLimit)).map ?_) lineEnd
    rintro assignment distinct _ ⟨⟩
    exact distinct

theorem yields_statements : Yields (fun all => ∀ statement ∈ all, statement.Distinct) statements := by
  refine yields_line.many.bind fun lines good => ?_
  refine (yields_any _).bind fun _ _ => (yields_any _).bind fun _ _ => yields_pure ?_
  intro statement among
  obtain ⟨said, line, same⟩ := List.mem_filterMap.mp among
  exact good said line statement same

end Reader

end SecureEcho.Toml
