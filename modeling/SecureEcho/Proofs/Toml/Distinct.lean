import Mathlib.Data.List.Nodup
import SecureEcho.Toml.Document

namespace SecureEcho.Toml

def Entries.names (entries : Entries) : List String := entries.map fun entry => entry.1.name

inductive Node.Distinct : Node → Prop where
  | scalar (position : Position) (value : Scalar) : Distinct (.scalar position value)
  | list (position : Position) {items : List Node} (each : ∀ item ∈ items, item.Distinct) :
    Distinct (.list position items)
  | table (position : Option Position) (origin : Origin) {entries : Entries} (once : entries.names.Nodup)
    (each : ∀ entry ∈ entries, entry.2.Distinct) : Distinct (.table position origin entries)
  | tables {elements : List Node} (each : ∀ element ∈ elements, element.Distinct) :
    Distinct (.tables elements)

namespace Entries

structure Distinct (entries : Entries) : Prop where
  once : entries.names.Nodup
  each : ∀ entry ∈ entries, entry.2.Distinct

theorem Distinct.node {entries : Entries} (distinct : entries.Distinct) (position : Option Position)
    (origin : Origin) : (Node.table position origin entries).Distinct :=
  .table position origin distinct.once distinct.each

theorem distinct_of_table {position : Option Position} {origin : Origin} {entries : Entries}
    (distinct : (Node.table position origin entries).Distinct) : entries.Distinct := by
  cases distinct with
  | table _ _ once each => exact ⟨once, each⟩

theorem distinct_nil : Distinct [] := ⟨List.nodup_nil, List.forall_mem_nil _⟩

theorem mem_of_find? {entries : Entries} {name : String} {node : Node}
    (found : entries.find? name = some node) : ∃ key, (key, node) ∈ entries := by
  obtain ⟨⟨key, _⟩, first, rfl⟩ := Option.map_eq_some_iff.mp found
  exact ⟨key, List.mem_of_find?_eq_some first⟩

theorem Distinct.of_find? {entries : Entries} {name : String} {node : Node} (distinct : entries.Distinct)
    (found : entries.find? name = some node) : node.Distinct := by
  obtain ⟨key, among⟩ := mem_of_find? found
  exact distinct.each _ among

theorem not_mem_names {entries : Entries} {name : String} (free : entries.find? name = none) :
    name ∉ entries.names := by
  intro among
  obtain ⟨entry, member, rfl⟩ := List.mem_map.mp among
  have missed := List.find?_eq_none.mp (Option.map_eq_none_iff.mp free) entry member
  simp at missed

theorem Distinct.append {entries : Entries} {key : Key} {node : Node} (distinct : entries.Distinct)
    (free : key.name ∉ entries.names) (good : node.Distinct) : Distinct (entries ++ [(key, node)]) := by
  constructor
  · have once : (entries.names.concat key.name).Nodup := distinct.once.concat free
    simpa [names] using once
  · intro entry member
    rcases List.mem_append.mp member with old | new
    · exact distinct.each entry old
    · rw [List.mem_singleton.mp new]
      exact good

theorem names_replace (entries : Entries) (name : String) (node : Node) :
    (entries.replace name node).names = entries.names := by
  unfold names replace
  rw [List.map_map]
  refine List.map_congr_left fun entry _ => ?_
  simp only [Function.comp_apply]
  split <;> rfl

theorem Distinct.replace {entries : Entries} {node : Node} (distinct : entries.Distinct) (name : String)
    (good : node.Distinct) : (entries.replace name node).Distinct := by
  refine ⟨names_replace entries name node ▸ distinct.once, fun entry member => ?_⟩
  obtain ⟨old, among, rfl⟩ := List.mem_map.mp member
  by_cases same : old.1.name == name
  · rw [if_pos same]
    exact good
  · rw [if_neg same]
    exact distinct.each old among

theorem Distinct.remove {entries : Entries} (distinct : entries.Distinct) (name : String) :
    (entries.remove name).Distinct :=
  ⟨distinct.once.sublist (List.filter_sublist.map _),
    fun entry member => distinct.each entry (List.mem_of_mem_filter member)⟩

theorem not_mem_names_remove (entries : Entries) (name : String) : name ∉ (entries.remove name).names := by
  intro among
  obtain ⟨entry, member, rfl⟩ := List.mem_map.mp among
  simp [remove] at member

theorem Distinct.add? {entries after : Entries} {key : Key} {node : Node} (distinct : entries.Distinct)
    (good : node.Distinct) (added : entries.add? key node = some after) : after.Distinct := by
  unfold Entries.add? at added
  cases free : entries.find? key.name with
  | some taken =>
    rw [free] at added
    cases added
  | none =>
    rw [free] at added
    cases added
    exact distinct.append (not_mem_names free) good

end Entries

theorem forall_mem_changeLast? {α : Type} {Good : α → Prop} {change : α → Option α}
    (kept : ∀ value after, Good value → change value = some after → Good after) {values results : List α}
    (good : ∀ value ∈ values, Good value) (changed : changeLast? change values = some results) :
    ∀ result ∈ results, Good result := by
  fun_induction changeLast? change values generalizing results with
  | case1 => cases changed
  | case2 last =>
    obtain ⟨after, one, rfl⟩ := Option.map_eq_some_iff.mp changed
    rw [List.forall_mem_singleton] at good ⊢
    exact kept last after good one
  | case3 value rest _ ih =>
    obtain ⟨later, more, rfl⟩ := Option.map_eq_some_iff.mp changed
    rw [List.forall_mem_cons] at good ⊢
    exact ⟨good.1, ih good.2 more⟩

-- A change keeps what it changes free of repeated names.
def KeepsDistinct (change : Origin → Entries → Option Entries) : Prop :=
  ∀ ⦃origin entries after⦄, Entries.Distinct entries → change origin entries = some after →
    Entries.Distinct after

-- By induction on the path, along which nothing but the next table is replaced.
theorem KeepsDistinct.changeAt? {change : Origin → Entries → Option Entries} (keeps : KeepsDistinct change)
    (step : Origin) (path : List Key) : KeepsDistinct (changeAt? step change path) := by
  induction path with
  | nil => exact keeps
  | cons key path ih =>
    intro origin entries after distinct changed
    unfold Toml.changeAt? at changed
    split at changed
    · rename_i free
      obtain ⟨inner, made, done⟩ := Option.bind_eq_some_iff.mp changed
      cases done
      exact distinct.append (Entries.not_mem_names free) ((ih Entries.distinct_nil made).node none step)
    · rename_i position reached inner found
      have before := Entries.distinct_of_table (distinct.of_find? found)
      split at changed
      · cases changed
      · split at changed
        · cases changed
        · obtain ⟨later, made, done⟩ := Option.bind_eq_some_iff.mp changed
          cases done
          exact distinct.replace key.name ((ih before made).node position reached)
    · rename_i elements found
      obtain ⟨later, made, done⟩ := Option.bind_eq_some_iff.mp changed
      cases done
      have before : ∀ element ∈ elements, element.Distinct := by
        cases distinct.of_find? found with
        | tables each => exact each
      refine distinct.replace key.name (.tables (forall_mem_changeLast? ?_ before made))
      intro element result good one
      split at one
      · obtain ⟨inner, within, done⟩ := Option.bind_eq_some_iff.mp one
        cases done
        exact (ih (Entries.distinct_of_table good) within).node _ _
      · cases one
    · cases changed

theorem distinct_addTo? {assignment : Assignment} (good : assignment.value.Distinct) :
    KeepsDistinct assignment.addTo? := by
  refine KeepsDistinct.changeAt? ?_ .dotted assignment.path
  intro reached inner after distinct changed
  dsimp only at changed
  split at changed
  · cases changed
  · exact distinct.add? good changed

theorem distinct_opened (position : Position) : (Node.table (some position) .header []).Distinct :=
  Entries.distinct_nil.node _ _

theorem Header.distinct_openTable? {header : Header} {root after : Entries} (distinct : root.Distinct)
    (opened : header.openTable? root = some after) : after.Distinct := by
  refine KeepsDistinct.changeAt? ?_ .passing header.path distinct opened
  intro _ parent result good changed
  dsimp only at changed
  split at changed
  · rename_i free
    cases changed
    exact good.append (Entries.not_mem_names free) (distinct_opened header.position)
  · rename_i inner found
    cases changed
    -- The table moves to the end, where its name is free once it is gone from its old place.
    exact (good.remove header.key.name).append (Entries.not_mem_names_remove parent header.key.name)
      ((Entries.distinct_of_table (good.of_find? found)).node _ _)
  · cases changed

theorem Header.distinct_openElement? {header : Header} {root after : Entries} (distinct : root.Distinct)
    (opened : header.openElement? root = some after) : after.Distinct := by
  refine KeepsDistinct.changeAt? ?_ .passing header.path distinct opened
  intro _ parent result good changed
  dsimp only at changed
  split at changed
  · rename_i free
    cases changed
    refine good.append (Entries.not_mem_names free) (.tables ?_)
    exact List.forall_mem_singleton.mpr (distinct_opened header.position)
  · rename_i elements found
    cases changed
    refine good.replace header.key.name (.tables ?_)
    cases good.of_find? found with
    | tables each =>
      exact List.forall_mem_append.mpr
        ⟨each, List.forall_mem_singleton.mpr (distinct_opened header.position)⟩
  · cases changed

theorem kept_foldlM {σ α : Type} (Good : σ → Prop) {change : σ → α → Option σ} {values : List α}
    (kept : ∀ value ∈ values, ∀ before after, Good before → change before value = some after → Good after)
    {start final : σ} (good : Good start) (ran : values.foldlM change start = some final) :
    Good final := by
  induction values generalizing start with
  | nil =>
    cases ran
    exact good
  | cons value later ih =>
    rw [List.foldlM_cons] at ran
    obtain ⟨next, one, rest⟩ := Option.bind_eq_some_iff.mp ran
    rw [List.forall_mem_cons] at kept
    exact ih kept.2 (kept.1 start next good one) rest

theorem distinct_inlineEntries? {assignments : List Assignment} {entries : Entries}
    (good : ∀ assignment ∈ assignments, assignment.value.Distinct)
    (read : inlineEntries? assignments = some entries) : entries.Distinct := by
  refine kept_foldlM Entries.Distinct ?_ Entries.distinct_nil read
  intro assignment among before after distinct added
  exact distinct_addTo? (good assignment among) distinct added

def Statement.Distinct : Statement → Prop
  | .assign assignment => assignment.value.Distinct
  | .openTable _ | .openElement _ => True

theorem Draft.distinct_add? {draft next : Draft} {statement : Statement} (good : statement.Distinct)
    (distinct : draft.root.Distinct) (added : draft.add? statement = some next) : next.root.Distinct := by
  cases statement with
  | assign assignment =>
    obtain ⟨root, changed, done⟩ := Option.bind_eq_some_iff.mp added
    cases done
    exact KeepsDistinct.changeAt? (distinct_addTo? good) .passing draft.current distinct changed
  | openTable header =>
    obtain ⟨root, opened, done⟩ := Option.bind_eq_some_iff.mp added
    cases done
    exact header.distinct_openTable? distinct opened
  | openElement header =>
    obtain ⟨root, opened, done⟩ := Option.bind_eq_some_iff.mp added
    cases done
    exact header.distinct_openElement? distinct opened

theorem distinct_tree? {statements : List Statement} {entries : Entries}
    (good : ∀ statement ∈ statements, statement.Distinct) (built : tree? statements = some entries) :
    entries.Distinct := by
  obtain ⟨draft, ran, rfl⟩ := Option.map_eq_some_iff.mp built
  refine kept_foldlM (fun draft : Draft => draft.root.Distinct) ?_ Entries.distinct_nil ran
  exact fun statement among before after => Draft.distinct_add? (good statement among)

end SecureEcho.Toml
