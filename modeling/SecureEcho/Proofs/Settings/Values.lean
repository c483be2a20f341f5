import Mathlib.Data.List.Basic
import SecureEcho.Settings.Document

namespace SecureEcho

theorem of_bind_eq_ok {ε α β : Type} {first : Except ε α} {next : α → Except ε β} {result : β}
    (ran : first >>= next = .ok result) : ∃ value, first = .ok value ∧ next value = .ok result := by
  cases first with
  | error cause => cases ran
  | ok value => exact ⟨value, rfl, ran⟩

namespace Toml

def Node.text? : Node → Option String
  | .scalar _ (.text value) => some value
  | _ => none

def Node.flag? : Node → Option Bool
  | .scalar _ (.boolean value) => some value
  | _ => none

-- The values in a section, under the names of the fields that they are for. Values in a list are for
-- the fields one after another.
def Node.fieldValues (names : List String) : Node → List (String × Node)
  | .table _ _ entries => entries.map fun entry => (entry.1.name, entry.2)
  | .list _ items | .tables items => names.zip items
  | .scalar .. => []

def valuesOf (name : String) (values : List (String × Node)) : List Node :=
  (values.filter fun value => value.1 == name).map Prod.snd

theorem valuesOf_append (name : String) (one two : List (String × Node)) :
    valuesOf name (one ++ two) = valuesOf name one ++ valuesOf name two := by
  simp [valuesOf]

theorem valuesOf_same (name : String) (node : Node) : valuesOf name [(name, node)] = [node] := by
  simp [valuesOf]

theorem valuesOf_other {name other : String} (apart : other ≠ name) (node : Node) :
    valuesOf name [(other, node)] = [] := by
  simp [valuesOf, apart]

def decided {α : Type} (decode : Node → Option α) (before : Option α) (values : List Node) : Option α :=
  match values.getLast? with
  | none => before
  | some value => decode value

theorem decided_append {α : Type} (decode : Node → Option α) (before : Option α) (one two : List Node) :
    decided decode before (one ++ two) = decided decode (decided decode before one) two := by
  unfold decided
  rw [List.getLast?_append]
  cases two.getLast? <;> rfl

theorem decided_none {α : Type} (decode : Node → Option α) (values : List Node) :
    decided decode none values = values.getLast?.bind decode := by
  unfold decided
  cases values.getLast? <;> rfl

theorem decided_same {α : Type} (decode : Node → Option α) (before : Option α) (name : String)
    (node : Node) : decided decode before (valuesOf name [(name, node)]) = decode node := by
  rw [valuesOf_same]
  rfl

theorem decided_other {α : Type} {name other : String} (apart : other ≠ name) (decode : Node → Option α)
    (before : Option α) (node : Node) :
    decided decode before (valuesOf name [(other, node)]) = before := by
  rw [valuesOf_other apart]
  rfl

end Toml

namespace FileSettings

open Toml

-- `take` says how values under the names of their fields change a draft. What one value does is asked
-- for here, and what a whole section does follows.
structure Reading {δ : Type} (fields : List (Field δ)) (take : δ → List (String × Node) → δ) : Prop where
  nil : ∀ draft, take draft [] = draft
  append : ∀ draft one two, take draft (one ++ two) = take (take draft one) two
  known : ∀ {field draft after position node}, field ∈ fields →
    field.read draft position node = .ok after → take draft [(field.name, node)] = after
  unknown : ∀ {name}, (∀ field ∈ fields, field.name ≠ name) → ∀ draft node,
    take draft [(name, node)] = draft

namespace Reading

variable {δ : Type} {fields : List (Field δ)} {take : δ → List (String × Node) → δ}

theorem entries (reading : Reading fields take) {draft final : δ} {entries : Entries}
    (ran : readEntries fields draft entries = .ok final) :
    take draft (entries.map fun entry => (entry.1.name, entry.2)) = final := by
  unfold readEntries at ran
  induction entries generalizing draft with
  | nil =>
    cases ran
    exact reading.nil _
  | cons entry later ih =>
    rw [List.foldlM_cons] at ran
    rw [List.map_cons, ← List.singleton_append, reading.append]
    cases found : fields.find? fun field => field.name == entry.1.name with
    | none =>
      have unknown := List.find?_eq_none.mp found
      simp only [found] at ran
      rw [reading.unknown (by simpa using unknown)]
      exact ih ran
    | some field =>
      have same : field.name = entry.1.name := by simpa using List.find?_some found
      simp only [found] at ran
      cases read : field.read draft entry.1.position entry.2 with
      | error mismatch =>
        rw [read] at ran
        cases ran
      | ok next =>
        rw [read] at ran
        have first := reading.known (List.mem_of_find?_eq_some found) read
        rw [same] at first
        rw [first]
        exact ih ran

theorem items (reading : Reading fields take) {draft final : δ} {items : List Node}
    (ran : readItems fields draft items = .ok final) :
    take draft ((fields.map Field.name).zip items) = final := by
  unfold readItems at ran
  rw [List.zip_map_left]
  have among : ∀ pair ∈ fields.zip items, pair.1 ∈ fields := fun pair member => (List.of_mem_zip member).1
  generalize fields.zip items = pairs at ran among ⊢
  induction pairs generalizing draft with
  | nil =>
    cases ran
    exact reading.nil _
  | cons pair later ih =>
    rw [List.foldlM_cons] at ran
    rw [List.map_cons, ← List.singleton_append, reading.append]
    cases read : pair.1.read draft (pair.2.position?.getD {}) pair.2 with
    | error mismatch =>
      simp only [read] at ran
      cases ran
    | ok next =>
      simp only [read] at ran
      have first : take draft [Prod.map Field.name id pair] = next :=
        reading.known (among pair List.mem_cons_self) read
      rw [first]
      exact ih ran fun other member => among other (List.mem_cons_of_mem _ member)

theorem readSection (reading : Reading fields take) {name : String} {blank final : δ}
    {position : Position} {node : Node}
    (ran : FileSettings.readSection name fields blank position node = .ok final) :
    take blank (node.fieldValues (fields.map Field.name)) = final := by
  unfold FileSettings.readSection at ran
  split at ran
  · exact reading.entries ran
  · cases ran
    exact reading.nil _
  · exact reading.items ran
  · exact reading.items ran
  · cases ran

end Reading

theorem text?_of_text {expected value : String} {position : Position} {node : Node}
    (read : text expected position node = .ok value) : node.text? = some value := by
  unfold text at read
  split at read
  · cases read
    rfl
  · cases read

theorem flag?_of_boolean {value : Bool} {position : Position} {node : Node}
    (read : boolean position node = .ok value) : node.flag? = some value := by
  unfold boolean at read
  split at read
  · cases read
    rfl
  · cases read

def TlsDraft.take (draft : TlsDraft) (values : List (String × Node)) : TlsDraft where
  caFile := decided Node.text? draft.caFile (valuesOf "ca_file" values)
  certFile := decided Node.text? draft.certFile (valuesOf "cert_file" values)
  keyFile := decided Node.text? draft.keyFile (valuesOf "key_file" values)
  verifyClient := decided Node.flag? draft.verifyClient (valuesOf "verify_client" values)

def LoggingDraft.take (draft : LoggingDraft) (values : List (String × Node)) : LoggingDraft where
  level := decided Node.text? draft.level (valuesOf "level" values)

theorem reading_tls : Reading tlsFields TlsDraft.take where
  nil draft := rfl
  append draft one two := by simp only [TlsDraft.take, valuesOf_append, decided_append]
  known := by
    intro field draft after position node member read
    simp only [tlsFields, List.mem_cons, List.not_mem_nil, or_false] at member
    rcases member with rfl | rfl | rfl | rfl
    all_goals
      obtain ⟨value, found, done⟩ := of_bind_eq_ok read
      cases done
    · simp [TlsDraft.take, decided_same, decided_other, text?_of_text found]
    · simp [TlsDraft.take, decided_same, decided_other, text?_of_text found]
    · simp [TlsDraft.take, decided_same, decided_other, text?_of_text found]
    · simp [TlsDraft.take, decided_same, decided_other, flag?_of_boolean found]
  unknown := by
    intro name unknown draft node
    have apart : ∀ field ∈ tlsFields, name ≠ field.name := fun field member => (unknown field member).symm
    simp only [tlsFields, List.forall_mem_cons] at apart
    obtain ⟨caFile, certFile, keyFile, verifyClient, -⟩ := apart
    simp only [TlsDraft.take, decided_other caFile, decided_other certFile, decided_other keyFile,
      decided_other verifyClient]

theorem reading_logging : Reading loggingFields LoggingDraft.take where
  nil draft := rfl
  append draft one two := by simp only [LoggingDraft.take, valuesOf_append, decided_append]
  known := by
    intro field draft after position node member read
    obtain rfl : field = _ := List.mem_singleton.mp member
    obtain ⟨value, found, done⟩ := of_bind_eq_ok read
    cases done
    simp [LoggingDraft.take, decided_same, text?_of_text found]
  unknown := by
    intro name unknown draft node
    have apart : name ≠ "level" := (unknown _ (List.mem_singleton.mpr rfl)).symm
    simp only [LoggingDraft.take, decided_other apart]

def tlsOf (node : Node) : TlsSettings :=
  (TlsDraft.take {} (node.fieldValues (tlsFields.map Field.name))).complete

def loggingOf (node : Node) : LoggingSettings :=
  (LoggingDraft.take {} (node.fieldValues (loggingFields.map Field.name))).complete

def FileDraft.take (draft : FileDraft) (values : List (String × Node)) : FileDraft where
  tls := decided (fun node => some (tlsOf node)) draft.tls (valuesOf "tls" values)
  logging := decided (fun node => some (loggingOf node)) draft.logging (valuesOf "logging" values)

theorem reading_sections : Reading sections FileDraft.take where
  nil draft := rfl
  append draft one two := by simp only [FileDraft.take, valuesOf_append, decided_append]
  known := by
    intro field draft after position node member read
    simp only [sections, List.mem_cons, List.not_mem_nil, or_false] at member
    rcases member with rfl | rfl
    · obtain ⟨tls, found, done⟩ := of_bind_eq_ok read
      cases done
      simp [FileDraft.take, decided_same, decided_other, tlsOf, reading_tls.readSection found]
    · obtain ⟨logging, found, done⟩ := of_bind_eq_ok read
      cases done
      simp [FileDraft.take, decided_same, decided_other, loggingOf, reading_logging.readSection found]
  unknown := by
    intro name unknown draft node
    have apart : ∀ field ∈ sections, name ≠ field.name := fun field member => (unknown field member).symm
    simp only [sections, List.forall_mem_cons] at apart
    obtain ⟨tls, logging, -⟩ := apart
    simp only [FileDraft.take, decided_other tls, decided_other logging]

def sectionValues {δ : Type} (title : String) (fields : List (Field δ)) (values : List (String × Node)) :
    List (String × Node) :=
  match (valuesOf title values).getLast? with
  | none => []
  | some node => node.fieldValues (fields.map Field.name)

def setting? {α δ : Type} (decode : Node → Option α) (title : String) (fields : List (Field δ))
    (name : String) (entries : Entries) : Option α :=
  let values := entries.map fun entry => (entry.1.name, entry.2)
  (valuesOf name (sectionValues title fields values)).getLast?.bind decode

def overlaid (entries : Entries) : FileSettings :=
  let defaults := FileSettings.byDefault
  { tls :=
      { caFile := (setting? Node.text? "tls" tlsFields "ca_file" entries).getD defaults.tls.caFile
        certFile := (setting? Node.text? "tls" tlsFields "cert_file" entries).getD defaults.tls.certFile
        keyFile := (setting? Node.text? "tls" tlsFields "key_file" entries).getD defaults.tls.keyFile
        verifyClient :=
          (setting? Node.flag? "tls" tlsFields "verify_client" entries).getD defaults.tls.verifyClient }
    logging :=
      { level := (setting? Node.text? "logging" loggingFields "level" entries).getD
          defaults.logging.level } }

-- The default that a field has by itself is the one that it has where its whole section is missing.

theorem TlsDraft.complete_eq (draft : TlsDraft) :
    draft.complete =
      { caFile := draft.caFile.getD TlsSettings.byDefault.caFile
        certFile := draft.certFile.getD TlsSettings.byDefault.certFile
        keyFile := draft.keyFile.getD TlsSettings.byDefault.keyFile
        verifyClient := draft.verifyClient.getD TlsSettings.byDefault.verifyClient } := rfl

theorem LoggingDraft.complete_eq (draft : LoggingDraft) :
    draft.complete = { level := draft.level.getD LoggingSettings.byDefault.level } := rfl

-- So it makes no difference which of the two a missing value gets.
theorem complete_take (entries : Entries) :
    (FileDraft.take {} (entries.map fun entry => (entry.1.name, entry.2))).complete = overlaid entries := by
  simp only [FileDraft.complete, FileDraft.take, overlaid, setting?, sectionValues, decided_none]
  congr 1
  · cases (valuesOf "tls" (entries.map fun entry => (entry.1.name, entry.2))).getLast? with
    | none => rfl
    | some node =>
      simp only [Option.bind_some, Option.getD_some, tlsOf, TlsDraft.complete_eq, TlsDraft.take,
        decided_none]
      rfl
  · cases (valuesOf "logging" (entries.map fun entry => (entry.1.name, entry.2))).getLast? with
    | none => rfl
    | some node =>
      simp only [Option.bind_some, Option.getD_some, loggingOf, LoggingDraft.complete_eq,
        LoggingDraft.take, decided_none]
      rfl

theorem eq_overlaid_of_ofEntries {entries : Entries} {file : FileSettings}
    (read : ofEntries entries = .ok file) : file = overlaid entries := by
  obtain ⟨draft, gathered, done⟩ := of_bind_eq_ok read
  cases done
  rw [← complete_take, reading_sections.entries gathered]

theorem of_ofText {parse : DocumentReader} {text : String} {file : FileSettings}
    (read : ofText parse text = .ok file) :
    ∃ entries, parse text = some entries ∧ file = overlaid entries := by
  unfold ofText at read
  split at read
  · cases read
  · rename_i entries parsed
    refine ⟨entries, parsed, eq_overlaid_of_ofEntries ?_⟩
    cases decoded : ofEntries entries with
    | error mismatch =>
      rw [decoded] at read
      cases read
    | ok settings =>
      rw [decoded] at read
      cases read
      rfl

end FileSettings

end SecureEcho
