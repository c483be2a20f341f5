import SecureEcho.Proofs.Settings.Precedence
import SecureEcho.Proofs.Toml.Reading

namespace SecureEcho

-- A document that gives two values the same name in one table is not well formed.
def DistinctKeys (parse : DocumentReader) : Prop :=
  ∀ text entries, parse text = some entries → entries.Distinct

theorem distinctKeys_parse? : DistinctKeys Toml.parse? := by
  intro text entries parsed
  obtain ⟨⟨statements, rest⟩, read, built⟩ := Option.bind_eq_some_iff.mp parsed
  exact Toml.distinct_tree? (Toml.Reader.yields_statements read) built

namespace Toml

def Scalar.isText : Scalar → Bool
  | .text _ => true
  | _ => false

def Scalar.isBoolean : Scalar → Bool
  | .boolean _ => true
  | _ => false

def Node.scalar? : Node → Option Scalar
  | .scalar _ value => some value
  | _ => none

def Node.isSection : Node → Bool
  | .scalar .. => false
  | _ => true

theorem length_valuesOf_le {values : List (String × Node)} (once : (values.map Prod.fst).Nodup)
    (name : String) : (valuesOf name values).length ≤ 1 := by
  have counted : (valuesOf name values).length = (values.map Prod.fst).count name := by
    rw [valuesOf, List.length_map, List.count, List.countP_map, List.countP_eq_length_filter]
    rfl
  rw [counted]
  exact List.nodup_iff_count_le_one.mp once name

theorem mem_valuesOf {name : String} {values : List (String × Node)} {node : Node} :
    node ∈ valuesOf name values ↔ (name, node) ∈ values := by
  simp [valuesOf]

theorem Node.of_isText {node : Node} (typed : node.scalar?.any Scalar.isText) :
    ∃ position value, node = .scalar position (.text value) := by
  cases node with
  | scalar position value =>
    cases value with
    | text value => exact ⟨position, value, rfl⟩
    | _ => cases typed
  | _ => cases typed

theorem Node.of_isBoolean {node : Node} (typed : node.scalar?.any Scalar.isBoolean) :
    ∃ position value, node = .scalar position (.boolean value) := by
  cases node with
  | scalar position value =>
    cases value with
    | boolean value => exact ⟨position, value, rfl⟩
    | _ => cases typed
  | _ => cases typed

theorem Node.reads_text (node : Node) (typed : node.scalar?.any Scalar.isText) :
    ∃ value, node.text? = some value ∧ node.scalar? = some (.text value) := by
  obtain ⟨position, value, rfl⟩ := Node.of_isText typed
  exact ⟨value, rfl, rfl⟩

theorem Node.reads_flag (node : Node) (typed : node.scalar?.any Scalar.isBoolean) :
    ∃ value, node.flag? = some value ∧ node.scalar? = some (.boolean value) := by
  obtain ⟨position, value, rfl⟩ := Node.of_isBoolean typed
  exact ⟨value, rfl, rfl⟩

theorem nil_or_singleton {α : Type} {values : List α} (short : values.length ≤ 1) :
    values = [] ∨ ∃ value, values = [value] :=
  (Nat.le_one_iff_eq_zero_or_eq_one.mp short).imp List.eq_nil_of_length_eq_zero List.length_eq_one_iff.mp

theorem fst_zip_sublist {α β : Type} (names : List α) (items : List β) :
    ((names.zip items).map Prod.fst).Sublist names := by
  induction names generalizing items with
  | nil => exact .slnil
  | cons name later ih =>
    cases items with
    | nil => exact List.nil_sublist _
    | cons item rest => exact (ih rest).cons_cons name

-- A table of a document has each name once, and a list has only so many values as there are fields.
theorem Node.nodup_fieldValues {node : Node} (distinct : node.Distinct) {names : List String}
    (once : names.Nodup) : ((node.fieldValues names).map Prod.fst).Nodup := by
  cases distinct with
  | scalar position value => exact List.nodup_nil
  | list position each => exact once.sublist (fst_zip_sublist names _)
  | table position origin apart each =>
    rw [Node.fieldValues, List.map_map]
    exact apart
  | tables each => exact once.sublist (fst_zip_sublist names _)

end Toml

open Toml

structure Setting where
  -- The section that it belongs to, and the names of all fields of that section in their order.
  title : String
  fields : List String
  name : String
  form : Scalar → Bool
  shown : FileSettings → Scalar

namespace Setting

-- The fields of the two sections in the order in which a list has them.
def tlsNames : List String := ["ca_file", "cert_file", "key_file", "verify_client"]
def loggingNames : List String := ["level"]

def ofTls (name : String) (form : Scalar → Bool) (shown : TlsSettings → Scalar) : Setting :=
  { title := "tls", fields := tlsNames, name, form, shown := fun file => shown file.tls }

def caFile : Setting := ofTls "ca_file" Scalar.isText fun tls => .text tls.caFile
def certFile : Setting := ofTls "cert_file" Scalar.isText fun tls => .text tls.certFile
def keyFile : Setting := ofTls "key_file" Scalar.isText fun tls => .text tls.keyFile
def verifyClient : Setting := ofTls "verify_client" Scalar.isBoolean fun tls => .boolean tls.verifyClient

def level : Setting :=
  { title := "logging", fields := loggingNames, name := "level", form := Scalar.isText
    shown := fun file => .text file.logging.level }

def all : List Setting := [caFile, certFile, keyFile, verifyClient, level]

def sections (setting : Setting) (entries : Entries) : List Node :=
  valuesOf setting.title (entries.map fun entry => (entry.1.name, entry.2))

def nodes (setting : Setting) (entries : Entries) : List Node :=
  valuesOf setting.name ((setting.sections entries).flatMap (Node.fieldValues setting.fields))

variable {setting : Setting} {entries : Entries} {node : Node}

theorem mem_sections :
    node ∈ setting.sections entries ↔ ∃ entry ∈ entries, entry.1.name = setting.title ∧ entry.2 = node := by
  simp only [sections, mem_valuesOf, List.mem_map, Prod.mk.injEq]

theorem mem_nodes :
    node ∈ setting.nodes entries ↔ ∃ entry ∈ entries, entry.1.name = setting.title ∧
      (setting.name, node) ∈ entry.2.fieldValues setting.fields := by
  simp only [nodes, mem_valuesOf, List.mem_flatMap, mem_sections]
  constructor
  · rintro ⟨_, ⟨entry, among, title, rfl⟩, given⟩
    exact ⟨entry, among, title, given⟩
  · rintro ⟨entry, among, title, given⟩
    exact ⟨entry.2, ⟨entry, among, title, rfl⟩, given⟩

theorem length_sections_le (distinct : entries.Distinct) : (setting.sections entries).length ≤ 1 := by
  refine length_valuesOf_le ?_ setting.title
  rw [List.map_map]
  exact distinct.once

theorem length_nodes_le (distinct : entries.Distinct) (once : setting.fields.Nodup) :
    (setting.nodes entries).length ≤ 1 := by
  unfold nodes
  rcases nil_or_singleton (length_sections_le distinct) with none | ⟨node, found⟩
  · rw [none]
    exact Nat.zero_le 1
  · have among : node ∈ setting.sections entries := found ▸ List.mem_singleton_self node
    obtain ⟨entry, member, -, rfl⟩ := mem_sections.mp among
    rw [found, List.flatMap_singleton]
    exact length_valuesOf_le (Node.nodup_fieldValues (distinct.each entry member) once) setting.name

structure Overlaid (setting : Setting) (entries : Entries) (file : FileSettings) : Prop where
  once : (setting.nodes entries).length ≤ 1
  present : ∀ node ∈ setting.nodes entries, node.scalar? = some (setting.shown file)
  absent : setting.nodes entries = [] → setting.shown file = setting.shown .byDefault

theorem overlaid_of {α : Type} {decode : Node → Option α} {into : α → Scalar} {default : α}
    {file : FileSettings}
    (reads : ∀ node : Node, node.scalar?.any setting.form →
      ∃ value, decode node = some value ∧ node.scalar? = some (into value))
    (once : (setting.nodes entries).length ≤ 1)
    (typed : ∀ node ∈ setting.nodes entries, node.scalar?.any setting.form)
    (shown : setting.shown file = into (((setting.nodes entries).getLast?.bind decode).getD default))
    (untouched : setting.shown .byDefault = into default) : setting.Overlaid entries file where
  once := once
  present := by
    intro node among
    rcases nil_or_singleton once with none | ⟨only, found⟩
    · rw [none] at among
      cases among
    · rw [found] at among shown typed
      obtain rfl := List.mem_singleton.mp among
      obtain ⟨value, decoded, same⟩ := reads node (typed node among)
      rw [shown, same, List.getLast?_singleton, Option.bind_some, decoded, Option.getD_some]
  absent := by
    intro none
    rw [shown, none, untouched]
    rfl

end Setting

def WellTyped (entries : Entries) : Prop :=
  (∀ entry ∈ entries, entry.1.name ∈ Setting.all.map Setting.title → entry.2.isSection) ∧
    ∀ setting ∈ Setting.all, ∀ node ∈ setting.nodes entries, node.scalar?.any setting.form

instance (entries : Entries) : Decidable (WellTyped entries) :=
  inferInstanceAs (Decidable (_ ∧ _))

theorem value_of_wellTyped {entries : Entries} (wellTyped : WellTyped entries) (setting : Setting)
    (known : setting ∈ Setting.all) {entry : Key × Node} (among : entry ∈ entries)
    (title : entry.1.name = setting.title) {value : Node}
    (given : (setting.name, value) ∈ entry.2.fieldValues setting.fields) :
    value.scalar?.any setting.form :=
  wellTyped.2 setting known value (Setting.mem_nodes.mpr ⟨entry, among, title, given⟩)

namespace FileSettings

-- A field takes a value whatever was read before it.
def Field.Accepts {δ : Type} (field : Field δ) (node : Node) : Prop :=
  ∀ before position, ∃ after, field.read before position node = .ok after

theorem exists_of_foldlM {ε σ α : Type} {step : σ → α → Except ε σ} {values : List α}
    (each : ∀ value ∈ values, ∀ before, ∃ after, step before value = .ok after) (start : σ) :
    ∃ final, values.foldlM step start = .ok final := by
  induction values generalizing start with
  | nil => exact ⟨start, rfl⟩
  | cons value later ih =>
    rw [List.forall_mem_cons] at each
    obtain ⟨next, one⟩ := each.1 start
    obtain ⟨final, rest⟩ := ih each.2 next
    refine ⟨final, ?_⟩
    rw [List.foldlM_cons, one]
    exact rest

theorem exists_of_readEntries {δ : Type} {fields : List (Field δ)} {entries : Entries}
    (accepted : ∀ field ∈ fields, ∀ entry ∈ entries, field.name = entry.1.name → field.Accepts entry.2)
    (blank : δ) : ∃ draft, readEntries fields blank entries = .ok draft := by
  refine exists_of_foldlM (fun entry among before => ?_) blank
  cases found : fields.find? fun field => field.name == entry.1.name with
  | none =>
    simp only [found]
    exact ⟨before, rfl⟩
  | some field =>
    simp only [found]
    have same : field.name = entry.1.name := by simpa using List.find?_some found
    exact accepted field (List.mem_of_find?_eq_some found) entry among same before _

theorem exists_of_readItems {δ : Type} {fields : List (Field δ)} {items : List Node}
    (accepted : ∀ pair ∈ fields.zip items, pair.1.Accepts pair.2) (blank : δ) :
    ∃ draft, readItems fields blank items = .ok draft :=
  exists_of_foldlM (fun pair among before => accepted pair among before _) blank

theorem exists_of_readSection {δ : Type} (title : String) {fields : List (Field δ)} {node : Node}
    (isSection : node.isSection)
    (accepted : ∀ field ∈ fields, ∀ value,
      (field.name, value) ∈ node.fieldValues (fields.map Field.name) → field.Accepts value)
    (blank : δ) (position : Position) :
    ∃ draft, readSection title fields blank position node = .ok draft := by
  have listed (items : List Node) (given : node.fieldValues (fields.map Field.name) =
      (fields.map Field.name).zip items) : ∃ draft, readItems fields blank items = .ok draft := by
    refine exists_of_readItems (fun pair among => ?_) blank
    refine accepted pair.1 (List.of_mem_zip among).1 pair.2 ?_
    rw [given, List.zip_map_left]
    exact List.mem_map.mpr ⟨pair, among, rfl⟩
  cases node with
  | scalar _ value => cases isSection
  | list _ items => exact listed items rfl
  | tables elements => exact listed elements rfl
  | table _ _ entries =>
    refine exists_of_readEntries (fun field known entry among same => ?_) blank
    refine accepted field known entry.2 ?_
    rw [same]
    exact List.mem_map.mpr ⟨entry, among, rfl⟩

theorem accepts_tls {entries : Entries} (wellTyped : WellTyped entries) {entry : Key × Node}
    (among : entry ∈ entries) (title : entry.1.name = "tls") :
    ∀ field ∈ tlsFields, ∀ value, (field.name, value) ∈ entry.2.fieldValues (tlsFields.map Field.name) →
      field.Accepts value := by
  intro field known value given
  simp only [tlsFields, List.mem_cons, List.not_mem_nil, or_false] at known
  rcases known with rfl | rfl | rfl | rfl
  · have typed := value_of_wellTyped wellTyped Setting.caFile (by simp [Setting.all]) among title given
    obtain ⟨_, text, rfl⟩ := Node.of_isText typed
    exact fun before _ => ⟨{ before with caFile := some text }, rfl⟩
  · have typed := value_of_wellTyped wellTyped Setting.certFile (by simp [Setting.all]) among title given
    obtain ⟨_, text, rfl⟩ := Node.of_isText typed
    exact fun before _ => ⟨{ before with certFile := some text }, rfl⟩
  · have typed := value_of_wellTyped wellTyped Setting.keyFile (by simp [Setting.all]) among title given
    obtain ⟨_, text, rfl⟩ := Node.of_isText typed
    exact fun before _ => ⟨{ before with keyFile := some text }, rfl⟩
  · have typed := value_of_wellTyped wellTyped Setting.verifyClient (by simp [Setting.all]) among title given
    obtain ⟨_, flag, rfl⟩ := Node.of_isBoolean typed
    exact fun before _ => ⟨{ before with verifyClient := some flag }, rfl⟩

theorem accepts_logging {entries : Entries} (wellTyped : WellTyped entries) {entry : Key × Node}
    (among : entry ∈ entries) (title : entry.1.name = "logging") :
    ∀ field ∈ loggingFields, ∀ value,
      (field.name, value) ∈ entry.2.fieldValues (loggingFields.map Field.name) → field.Accepts value := by
  intro field known value given
  obtain rfl := List.mem_singleton.mp known
  have typed := value_of_wellTyped wellTyped Setting.level (by simp [Setting.all]) among title given
  obtain ⟨_, text, rfl⟩ := Node.of_isText typed
  exact fun before _ => ⟨{ before with level := some text }, rfl⟩

theorem exists_of_ofEntries {entries : Entries} (wellTyped : WellTyped entries) :
    ∃ file, ofEntries entries = .ok file := by
  have gathered : ∃ draft, readEntries sections {} entries = .ok draft := by
    refine exists_of_readEntries (fun field known entry among same before position => ?_)
      ({} : FileDraft)
    simp only [sections, List.mem_cons, List.not_mem_nil, or_false] at known
    rcases known with rfl | rfl
    · have isSection : entry.2.isSection := wellTyped.1 entry among (same ▸ by decide)
      obtain ⟨tls, read⟩ := exists_of_readSection "TlsConfig" isSection
        (accepts_tls wellTyped among same.symm) {} position
      exact ⟨{ before with tls := some tls.complete }, by simp only [read]; rfl⟩
    · have isSection : entry.2.isSection := wellTyped.1 entry among (same ▸ by decide)
      obtain ⟨logging, read⟩ := exists_of_readSection "LoggingConfig" isSection
        (accepts_logging wellTyped among same.symm) {} position
      exact ⟨{ before with logging := some logging.complete }, by simp only [read]; rfl⟩
  obtain ⟨draft, read⟩ := gathered
  exact ⟨draft.complete, by simp only [ofEntries, read]; rfl⟩

theorem setting?_of_distinct {α δ : Type} {entries : Entries} (distinct : entries.Distinct)
    (decode : Node → Option α) (title : String) (fields : List (Field δ)) (name : String) :
    setting? decode title fields name entries =
      (valuesOf name ((valuesOf title (entries.map fun entry => (entry.1.name, entry.2))).flatMap
        (Node.fieldValues (fields.map Field.name)))).getLast?.bind decode := by
  have once : (valuesOf title (entries.map fun entry => (entry.1.name, entry.2))).length ≤ 1 := by
    refine length_valuesOf_le ?_ title
    rw [List.map_map]
    exact distinct.once
  simp only [setting?, sectionValues]
  rcases nil_or_singleton once with none | ⟨node, found⟩
  · rw [none]
    rfl
  · rw [found, List.flatMap_singleton]
    rfl

theorem overlaid_of_wellTyped {entries : Entries} (distinct : entries.Distinct)
    (wellTyped : WellTyped entries) :
    ∀ setting ∈ Setting.all, setting.Overlaid entries (overlaid entries) := by
  have apart : ∀ setting ∈ Setting.all, setting.fields.Nodup := by decide
  have once : ∀ setting ∈ Setting.all, (setting.nodes entries).length ≤ 1 :=
    fun setting known => Setting.length_nodes_le distinct (apart setting known)
  have typed := wellTyped.2
  have path (name default : String) := congrArg (fun found => Scalar.text (Option.getD found default))
    (setting?_of_distinct distinct Node.text? "tls" tlsFields name)
  have flag (name : String) (default : Bool) :=
    congrArg (fun found => Scalar.boolean (Option.getD found default))
      (setting?_of_distinct distinct Node.flag? "tls" tlsFields name)
  have logged (name default : String) := congrArg (fun found => Scalar.text (Option.getD found default))
    (setting?_of_distinct distinct Node.text? "logging" loggingFields name)
  simp only [Setting.all, List.forall_mem_cons] at once typed ⊢
  obtain ⟨caFile, certFile, keyFile, verifyClient, level, -⟩ := typed
  refine ⟨?_, ?_, ?_, ?_, ?_, List.forall_mem_nil _⟩
  · exact Setting.overlaid_of Node.reads_text once.1 caFile (path _ _) rfl
  · exact Setting.overlaid_of Node.reads_text once.2.1 certFile (path _ _) rfl
  · exact Setting.overlaid_of Node.reads_text once.2.2.1 keyFile (path _ _) rfl
  · exact Setting.overlaid_of Node.reads_flag once.2.2.2.1 verifyClient (flag _ _) rfl
  · exact Setting.overlaid_of Node.reads_text once.2.2.2.2.1 level (logged _ _) rfl

theorem eq_of_shown {one other : FileSettings}
    (same : ∀ setting ∈ Setting.all, setting.shown one = setting.shown other) : one = other := by
  simp only [Setting.all, List.forall_mem_cons] at same
  obtain ⟨caFile, certFile, keyFile, verifyClient, level, -⟩ := same
  obtain ⟨⟨_, _, _, _⟩, ⟨_⟩⟩ := one
  obtain ⟨⟨_, _, _, _⟩, ⟨_⟩⟩ := other
  cases caFile
  cases certFile
  cases keyFile
  cases verifyClient
  cases level
  rfl

theorem shown_eq_of_overlaid {setting : Setting} {entries others : Entries} {one other : FileSettings}
    (first : setting.Overlaid entries one) (second : setting.Overlaid others other)
    (same : (setting.nodes entries).map Node.scalar? = (setting.nodes others).map Node.scalar?) :
    setting.shown one = setting.shown other := by
  rcases nil_or_singleton first.once with none | ⟨node, found⟩
  · have neither : setting.nodes others = [] := by
      rw [none] at same
      exact List.map_eq_nil_iff.mp same.symm
    exact (first.absent none).trans (second.absent neither).symm
  · rcases nil_or_singleton second.once with none | ⟨node', found'⟩
    · rw [found, none] at same
      cases same
    · rw [found, found', List.map_singleton, List.map_singleton, List.singleton_inj] at same
      have shown := first.present node (found ▸ List.mem_singleton_self node)
      have shown' := second.present node' (found' ▸ List.mem_singleton_self node')
      exact Option.some.inj (shown.symm.trans (same.trans shown'))

theorem ofText_of_wellTyped {parse : DocumentReader} {text : String} {entries : Entries}
    (parsed : parse text = some entries) (wellTyped : WellTyped entries) :
    ofText parse text = .ok (overlaid entries) := by
  obtain ⟨file, read⟩ := exists_of_ofEntries wellTyped
  rw [ofText, parsed, ← eq_overlaid_of_ofEntries read]
  simp only [read]
  rfl

theorem overlaid_of_unset {entries : Entries} (distinct : entries.Distinct) (wellTyped : WellTyped entries)
    (unset : ∀ setting ∈ Setting.all, setting.nodes entries = []) : overlaid entries = .byDefault :=
  eq_of_shown fun setting known =>
    (overlaid_of_wellTyped distinct wellTyped setting known).absent (unset setting known)

-- Each setting is as in the document or as by default, whatever else the document holds and however it
-- is written; and a document that sets nothing is the same as none on the command line.
theorem document_is_laid_over_defaults {parse : DocumentReader} (distinct : DistinctKeys parse)
    {text : String} {entries : Entries} (parsed : parse text = some entries)
    (wellTyped : WellTyped entries) :
    ∃ file, ofText parse text = .ok file ∧
      (∀ setting ∈ Setting.all, setting.Overlaid entries file) ∧
      (∀ text' entries', parse text' = some entries' → WellTyped entries' →
        (∀ setting ∈ Setting.all,
          (setting.nodes entries').map Node.scalar? = (setting.nodes entries).map Node.scalar?) →
        ofText parse text' = .ok file) ∧
      ((∀ setting ∈ Setting.all, setting.nodes entries = []) →
        ∀ (arguments : Arguments) (files : Files) (path : String), files.readText path = .ok text →
          { arguments with config := some path }.load parse files =
            { arguments with config := none }.load parse files) := by
  have overlaid := overlaid_of_wellTyped (distinct text entries parsed) wellTyped
  refine ⟨_, ofText_of_wellTyped parsed wellTyped, overlaid, ?_, ?_⟩
  · intro text' entries' parsed' wellTyped' same
    rw [ofText_of_wellTyped parsed' wellTyped']
    have overlaid' := overlaid_of_wellTyped (distinct text' entries' parsed') wellTyped'
    exact congrArg Except.ok (eq_of_shown fun setting known =>
      shown_eq_of_overlaid (overlaid' setting known) (overlaid setting known) (same setting known))
  · intro unset arguments files path readable
    have read := ofText_of_wellTyped parsed wellTyped
    rw [overlaid_of_unset (distinct text entries parsed) wellTyped unset] at read
    exact Arguments.load_of_readable rfl readable read

-- Sections in the other order and in other forms, and unknown names among them, are the same as plain
-- tables. Unknown names alone are the same as no document.
theorem document_is_laid_over_defaults_in_other_spelling :
    let plain := "[tls]\nca_file = \"a\"\ncert_file = \"b\"\n"
    let other := "logging.unknown = 1\ntls = [\"a\", 'b']\n[unknown]\nca_file = true\n"
    let unset := "[logging]\n[tls]\nca = \"a\"\n"
    let expected : FileSettings := ⟨⟨"a", "b", defaultKeyFile, false⟩, .byDefault⟩
    DistinctKeys parse? ∧ ofText parse? plain = .ok expected ∧ ofText parse? other = .ok expected ∧
      ∀ (arguments : Arguments) (files : Files), files.readText "e.toml" = .ok unset →
        { arguments with config := some "e.toml" }.load parse? files =
          { arguments with config := none }.load parse? files := by
  intro plain other unset expected
  have read : ofText parse? plain = .ok expected := eq_ok_of_toOption (by decide +kernel)
  have alike : ((parse? plain).any fun entries => (parse? other).any fun entries' =>
      decide (WellTyped entries ∧ WellTyped entries' ∧ ∀ setting ∈ Setting.all,
        (setting.nodes entries').map Node.scalar? = (setting.nodes entries).map Node.scalar?)) = true := by
    decide +kernel
  have nothing : ((parse? unset).any fun entries =>
      decide (WellTyped entries ∧ ∀ setting ∈ Setting.all, (setting.nodes entries).isEmpty)) = true := by
    decide +kernel
  obtain ⟨entries, parsed, alike⟩ := (Option.any_eq_true _ _).mp alike
  obtain ⟨entries', parsed', alike⟩ := (Option.any_eq_true _ _).mp alike
  obtain ⟨wellTyped, wellTyped', same⟩ := of_decide_eq_true alike
  obtain ⟨unsetEntries, unsetParsed, nothing⟩ := (Option.any_eq_true _ _).mp nothing
  obtain ⟨unsetTyped, empty⟩ := of_decide_eq_true nothing
  obtain ⟨file, found, -, respelled, -⟩ :=
    document_is_laid_over_defaults distinctKeys_parse? parsed wellTyped
  obtain rfl : expected = file := Except.ok.inj (read.symm.trans found)
  obtain ⟨_, -, -, -, asNone⟩ :=
    document_is_laid_over_defaults distinctKeys_parse? unsetParsed unsetTyped
  exact ⟨distinctKeys_parse?, read, respelled other entries' parsed' wellTyped' same,
    fun arguments files =>
      asNone (fun setting known => List.isEmpty_iff.mp (empty setting known)) arguments files "e.toml"⟩

end FileSettings

end SecureEcho
