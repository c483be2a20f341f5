import SecureEcho.Basic
import SecureEcho.Settings.Basic
import SecureEcho.Text
import SecureEcho.Toml.Tree

namespace SecureEcho

structure TypeMismatch where
  found : String
  expected : String
  position : Toml.Position
deriving DecidableEq, Repr

namespace TypeMismatch

def message (mismatch : TypeMismatch) : String :=
  s!"invalid type: {mismatch.found}, expected {mismatch.expected}"

def location (mismatch : TypeMismatch) : String :=
  s!"TOML parse error at line {mismatch.position.line}, column {mismatch.position.column}"

end TypeMismatch

namespace Toml

namespace Scalar

-- How a value is named where another was expected. A date counts as a table.
def describe : Scalar → String
  | .text value => s!"string {Text.quoted value}"
  | .integer value => s!"integer `{value}`"
  | .decimal value => s!"floating point `{value.text}`"
  | .unbounded false => "floating point `inf`"
  | .unbounded true => "floating point `-inf`"
  | .undefined => "floating point `NaN`"
  | .boolean value => s!"boolean `{value}`"
  | .moment => "map"

end Scalar

namespace Node

def describe : Node → String
  | .scalar _ value => value.describe
  | .list .. | .tables _ => "sequence"
  | .table .. => "map"

-- Where the value was written; a table that was only mentioned has no place of its own.
def position? : Node → Option Position
  | .scalar position _ | .list position _ => some position
  | .table position _ _ => position
  | .tables elements =>
    match elements.head? with
    | some (.table position _ _) => position
    | _ => none

def mismatch (node : Node) (fallback : Position) (expected : String) : TypeMismatch :=
  ⟨node.describe, expected, node.position?.getD fallback⟩

end Node

end Toml

namespace FileSettings

open Toml

abbrev Decoded := Except TypeMismatch

abbrev Decoder (α : Type) := Position → Node → Decoded α

def text (expected : String) : Decoder String := fun fallback node =>
  match node with
  | .scalar _ (.text value) => .ok value
  | _ => .error (node.mismatch fallback expected)

def boolean : Decoder Bool := fun fallback node =>
  match node with
  | .scalar _ (.boolean value) => .ok value
  | _ => .error (node.mismatch fallback "a boolean")

-- One field: its name, and how its value is added to the draft of what it belongs to.
structure Field (δ : Type) where
  name : String
  read : δ → Decoder δ

-- Takes in named entries, in their order; names that no field has are passed over.
def readEntries {δ : Type} (fields : List (Field δ)) (draft : δ) (entries : Entries) : Decoded δ :=
  entries.foldlM (fun draft (key, node) =>
    match fields.find? fun field => field.name == key.name with
    | some field => field.read draft key.position node
    | none => .ok draft) draft

-- Takes in values in the order of the fields; values beyond the last field are passed over.
def readItems {δ : Type} (fields : List (Field δ)) (draft : δ) (items : List Node) : Decoded δ :=
  (fields.zip items).foldlM (fun draft (field, node) =>
    field.read draft (node.position?.getD {}) node) draft

def readSection {δ : Type} (name : String) (fields : List (Field δ)) (blank : δ) : Decoder δ :=
  fun fallback node =>
    match node with
    | .table _ _ entries => readEntries fields blank entries
    | .scalar _ .moment => .ok blank
    | .list _ items | .tables items => readItems fields blank items
    | .scalar .. => .error (node.mismatch fallback s!"struct {name}")

def path : Decoder String := text "path string"

structure TlsDraft where
  caFile : Option String := none
  certFile : Option String := none
  keyFile : Option String := none
  verifyClient : Option Bool := none
deriving DecidableEq, Repr

def TlsDraft.complete (draft : TlsDraft) : TlsSettings where
  caFile := draft.caFile.getD defaultCaFile
  certFile := draft.certFile.getD defaultCertFile
  keyFile := draft.keyFile.getD defaultKeyFile
  verifyClient := draft.verifyClient.getD false

def tlsFields : List (Field TlsDraft) :=
  [ ⟨"ca_file", fun draft position node => do
      return { draft with caFile := some (← path position node) }⟩,
    ⟨"cert_file", fun draft position node => do
      return { draft with certFile := some (← path position node) }⟩,
    ⟨"key_file", fun draft position node => do
      return { draft with keyFile := some (← path position node) }⟩,
    ⟨"verify_client", fun draft position node => do
      return { draft with verifyClient := some (← boolean position node) }⟩ ]

structure LoggingDraft where
  level : Option String := none
deriving DecidableEq, Repr

def LoggingDraft.complete (draft : LoggingDraft) : LoggingSettings where
  level := draft.level.getD defaultLevel

def loggingFields : List (Field LoggingDraft) :=
  [⟨"level", fun draft position node => do
    return { draft with level := some (← text "a string" position node) }⟩]

structure FileDraft where
  tls : Option TlsSettings := none
  logging : Option LoggingSettings := none
deriving DecidableEq, Repr

-- A section that is not there at all is taken as a whole from the defaults.
def FileDraft.complete (draft : FileDraft) : FileSettings where
  tls := draft.tls.getD .byDefault
  logging := draft.logging.getD .byDefault

def sections : List (Field FileDraft) :=
  [ ⟨"tls", fun draft position node => do
      let tls ← readSection "TlsConfig" tlsFields {} position node
      return { draft with tls := some tls.complete }⟩,
    ⟨"logging", fun draft position node => do
      let logging ← readSection "LoggingConfig" loggingFields {} position node
      return { draft with logging := some logging.complete }⟩ ]

def ofEntries (entries : Entries) : Decoded FileSettings := do
  return (← readEntries sections {} entries).complete

end FileSettings

inductive DocumentError where
  | malformed
  | mismatch (cause : TypeMismatch)
deriving DecidableEq, Repr

abbrev DocumentReader := String → Option Toml.Entries

def FileSettings.ofText (parse : DocumentReader) (text : String) : Except DocumentError FileSettings :=
  match parse text with
  | none => .error .malformed
  | some entries => (FileSettings.ofEntries entries).mapError .mismatch

inductive ConfigError where
  | unreadable (path : String) (cause : IoError)
  | rejected (path : String) (cause : DocumentError)
deriving DecidableEq, Repr

namespace ConfigError

def rejection (path : String) : String := s!"Failed to parse config file '{path}': "

def message : ConfigError → String
  | .unreadable path cause => s!"Failed to read config file '{path}': {cause.message}"
  | .rejected path .malformed => rejection path
  | .rejected path (.mismatch cause) => s!"{rejection path}{cause.location}\n{cause.message}\n"

end ConfigError

def Arguments.fileSettings (arguments : Arguments) (parse : DocumentReader) (files : Files) :
    Except ConfigError FileSettings :=
  match arguments.config with
  | none => .ok .byDefault
  | some path => do
    let text ← (files.readText path).mapError (.unreadable path)
    (FileSettings.ofText parse text).mapError (.rejected path)

def Arguments.load (arguments : Arguments) (parse : DocumentReader) (files : Files) :
    Except ConfigError Settings := do
  return arguments.resolve (← arguments.fileSettings parse files)

end SecureEcho
