import SecureEcho.CommandLine.Basic
import SecureEcho.Proofs.Settings.Values
import SecureEcho.Settings.Document
import SecureEcho.Toml.Document

namespace SecureEcho

theorem eq_ok_of_toOption {ε α : Type} {answer : Except ε α} {value : α}
    (found : answer.toOption = some value) : answer = .ok value := by
  cases answer with
  | error cause => cases found
  | ok other => exact congrArg Except.ok (Option.some.inj found)

namespace CommandLine

theorem of_finish {given : Given} {arguments : Arguments} (finished : given.finish = .ok arguments) :
    arguments =
      { host := arguments.host, port := arguments.port, config := given.config, caFile := given.caFile,
        certFile := given.certFile, keyFile := given.keyFile, verifyClient := given.verifyClient,
        logLevel := given.logLevel.getD defaultLevel } := by
  unfold Given.finish at finished
  split at finished
  · cases finished
    rfl
  · cases finished

end CommandLine

namespace Arguments

-- Settings by layers: what the command line gives, else what the document sets, else the default.
def layered (arguments : Arguments) (given : CommandLine.Given) (entries : Toml.Entries) : Settings :=
  let defaults := FileSettings.byDefault
  let path (asked : Option String) (name default : String) : String :=
    (asked.or (FileSettings.setting? Toml.Node.text? "tls" FileSettings.tlsFields name entries)).getD default
  let level :=
    FileSettings.setting? Toml.Node.text? "logging" FileSettings.loggingFields "level" entries
  { host := arguments.host
    port := arguments.port
    tls :=
      { caFile := path given.caFile "ca_file" defaults.tls.caFile
        certFile := path given.certFile "cert_file" defaults.tls.certFile
        keyFile := path given.keyFile "key_file" defaults.tls.keyFile
        verifyClient := given.verifyClient ||
          FileSettings.setting? Toml.Node.flag? "tls" FileSettings.tlsFields "verify_client" entries =
            some true }
    logLevel := (given.logLevel.or level).getD defaults.logging.level }

theorem load_of_readable {parse : DocumentReader} {arguments : Arguments} {files : Files}
    {path text : String} {file : FileSettings} (named : arguments.config = some path)
    (readable : files.readText path = .ok text) (read : FileSettings.ofText parse text = .ok file) :
    arguments.load parse files = .ok (arguments.resolve file) := by
  have found : arguments.fileSettings parse files = .ok file := by
    simp [fileSettings, named, readable, read, Except.mapError, bind, Except.bind]
  simp [load, found, bind, Except.bind, pure, Except.pure]

theorem getD_or {α : Type} (first second : Option α) (last : α) :
    first.getD (second.getD last) = (first.or second).getD last := by
  cases first <;> rfl

theorem getD_false (asked : Option Bool) : asked.getD false = decide (asked = some true) := by
  rcases asked with _ | _ | _ <;> rfl

theorem resolve_overlaid {given : CommandLine.Given} {arguments : Arguments}
    (finished : given.finish = .ok arguments) (entries : Toml.Entries) :
    arguments.resolve (FileSettings.overlaid entries) =
      { arguments.layered given entries with
        logLevel :=
          if given.logLevel = some defaultLevel then (FileSettings.overlaid entries).logging.level
          else (arguments.layered given entries).logLevel } := by
  rw [CommandLine.of_finish finished]
  have level : (if given.logLevel.getD defaultLevel ≠ defaultLevel then given.logLevel.getD defaultLevel
      else (FileSettings.overlaid entries).logging.level) =
        if given.logLevel = some defaultLevel then (FileSettings.overlaid entries).logging.level
        else (arguments.layered given entries).logLevel := by
    cases asked : given.logLevel with
    | none => simp [layered, asked, FileSettings.overlaid]
    | some level => by_cases same : level = defaultLevel <;> simp [layered, asked, same]
  have unasked : FileSettings.byDefault.tls.verifyClient = false := rfl
  unfold resolve
  simp only [level]
  simp only [layered, FileSettings.overlaid, getD_or, unasked, getD_false]

-- However the words and the document are read: the settings are the layered ones unless the default
-- level is given on the command line and the file sets another. Then it is the file that counts.
theorem loads_layered_unless_default_level {read : CommandLine.WordReader} {parse : DocumentReader}
    {words : List String} {arguments : Arguments} {files : Files} {path text : String}
    {file : FileSettings} (accepted : CommandLine.parse read words = .ok arguments)
    (named : arguments.config = some path) (readable : files.readText path = .ok text)
    (wellFormed : FileSettings.ofText parse text = .ok file) :
    ∃ given entries settings, read words = .ok given ∧ parse text = some entries ∧
      arguments.load parse files = .ok settings ∧
      settings =
        { arguments.layered given entries with
          logLevel :=
            if given.logLevel = some defaultLevel then (FileSettings.overlaid entries).logging.level
            else (arguments.layered given entries).logLevel } ∧
      (settings = arguments.layered given entries ↔
        (given.logLevel = some defaultLevel →
          (FileSettings.overlaid entries).logging.level = defaultLevel)) := by
  obtain ⟨given, gathered, finished⟩ := of_bind_eq_ok accepted
  obtain ⟨entries, parsed, rfl⟩ := FileSettings.of_ofText wellFormed
  have resolved := resolve_overlaid finished entries
  refine ⟨given, entries, _, gathered, parsed, load_of_readable named readable wellFormed, resolved, ?_⟩
  rw [resolved]
  by_cases asked : given.logLevel = some defaultLevel
  · have first : (arguments.layered given entries).logLevel = defaultLevel := by simp [layered, asked]
    simp only [asked, ↓reduceIte, true_implies]
    constructor
    · intro same
      exact (congrArg Settings.logLevel same).trans first
    · intro same
      rw [same, ← first]
  · simp [asked]

theorem loads_layered_from_both_sources :
    let words := ["127.0.0.1", "4433", "-c", "e.toml", "--cert-file=cli.crt", "--log-level", "trace"]
    let text := "[tls]\nkey_file = \"file.key\"\ncert_file = \"file.crt\"\nverify_client = true\n" ++
      "[logging]\nlevel = \"warn\"\n"
    let files : Files := fun _ => .ok text.toUTF8.data.toList
    let arguments : Arguments :=
      { host := "127.0.0.1", port := 4433, config := some "e.toml", certFile := some "cli.crt",
        logLevel := "trace" }
    CommandLine.parse CommandLine.gather words = .ok arguments ∧ files.readText "e.toml" = .ok text ∧
      ∃ given entries settings, CommandLine.gather words = .ok given ∧ Toml.parse? text = some entries ∧
        arguments.load Toml.parse? files = .ok settings ∧ settings = arguments.layered given entries ∧
        settings.tls = ⟨defaultCaFile, "cli.crt", "file.key", true⟩ ∧
        settings.logLevel = "trace" := by
  intro words text files arguments
  have accepted : CommandLine.parse CommandLine.gather words = .ok arguments :=
    eq_ok_of_toOption (by decide +kernel)
  have readable : files.readText "e.toml" = .ok text := eq_ok_of_toOption (by decide +kernel)
  have wellFormed : FileSettings.ofText Toml.parse? text = .ok
      { tls := ⟨defaultCaFile, "file.crt", "file.key", true⟩, logging := ⟨"warn"⟩ } :=
    eq_ok_of_toOption (by decide +kernel)
  have asked : CommandLine.gather words = .ok
      { host := some "127.0.0.1", port := some 4433, config := some "e.toml",
        certFile := some "cli.crt", logLevel := some "trace" } := eq_ok_of_toOption (by decide +kernel)
  obtain ⟨given, entries, settings, gathered, parsed, loaded, -, layered_iff⟩ :=
    loads_layered_unless_default_level accepted rfl readable wellFormed
  have resolved := loaded.symm.trans (load_of_readable rfl readable wellFormed)
  cases asked.symm.trans gathered
  cases resolved
  exact ⟨accepted, readable, _, entries, _, gathered, parsed, loaded,
    layered_iff.mpr fun same => absurd same (by decide), rfl, rfl⟩

theorem default_level_yields_to_file :
    let words := ["localhost", "4433", "--config", "e.toml", "--log-level", "info"]
    let text := "[logging]\nlevel = \"warn\"\n"
    let files : Files := fun _ => .ok text.toUTF8.data.toList
    ∃ arguments given entries settings, CommandLine.parse CommandLine.gather words = .ok arguments ∧
      CommandLine.gather words = .ok given ∧ Toml.parse? text = some entries ∧
      arguments.load Toml.parse? files = .ok settings ∧ given.logLevel = some "info" ∧
      settings.logLevel = "warn" ∧ settings ≠ arguments.layered given entries := by
  intro words text files
  have accepted : CommandLine.parse CommandLine.gather words = .ok
      { host := "localhost", port := 4433, config := some "e.toml" } := eq_ok_of_toOption (by decide +kernel)
  have asked : CommandLine.gather words = .ok
      { host := some "localhost", port := some 4433, config := some "e.toml", logLevel := some "info" } :=
    eq_ok_of_toOption (by decide +kernel)
  have readable : files.readText "e.toml" = .ok text := eq_ok_of_toOption (by decide +kernel)
  have wellFormed : FileSettings.ofText Toml.parse? text = .ok
      { FileSettings.byDefault with logging := ⟨"warn"⟩ } := eq_ok_of_toOption (by decide +kernel)
  obtain ⟨entries, parsed, -⟩ := FileSettings.of_ofText wellFormed
  refine ⟨_, _, entries, _, accepted, asked, parsed, load_of_readable rfl readable wellFormed, rfl, rfl, ?_⟩
  intro same
  exact absurd (congrArg Settings.logLevel same) (by simp [layered, resolve, defaultLevel])

end Arguments

end SecureEcho
