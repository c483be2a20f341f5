import Mathlib.Data.List.Forall2
import SecureEcho.Program

namespace SecureEcho

def fault? {ε α : Type} : Except ε α → Option ε
  | .error cause => some cause
  | .ok _ => none

namespace Loaded

variable {α β Fault : Type}

def Heeds (result : Loaded Fault α) (complaints : List (Option (CredentialsError Fault)))
    (Good : α → Prop) : Prop :=
  match complaints.findSome? id with
  | some error => result = .error error
  | none => ∃ value, result = .ok value ∧ Good value

theorem heeds_pure {value : α} {Good : α → Prop} (good : Good value) :
    Heeds (pure value : Loaded Fault α) [] Good :=
  ⟨value, rfl, good⟩

theorem heeds_one {result : Loaded Fault α} {complaint : Option (CredentialsError Fault)}
    {Good : α → Prop}
    (failed : ∀ error, complaint = some error → result = .error error)
    (passed : complaint = none → ∃ value, result = .ok value ∧ Good value) :
    Heeds result [complaint] Good := by
  cases complaint with
  | some error => exact failed error rfl
  | none => exact passed rfl

variable {result : Loaded Fault α} {complaints : List (Option (CredentialsError Fault))} {Good : α → Prop}

theorem heeds_iff :
    Heeds result complaints Good ↔
      (∃ error, complaints.findSome? id = some error ∧ result = .error error) ∨
        complaints.findSome? id = none ∧ ∃ value, result = .ok value ∧ Good value := by
  unfold Heeds
  cases complaints.findSome? id <;> simp

theorem Heeds.findSome?_of_error {error : CredentialsError Fault} (heeds : Heeds result complaints Good)
    (failed : result = .error error) : complaints.findSome? id = some error := by
  rcases heeds_iff.mp heeds with ⟨first, found, same⟩ | ⟨-, value, loaded, -⟩
  · rw [found, Except.error.inj (failed.symm.trans same)]
  · cases failed.symm.trans loaded

theorem Heeds.good_of_ok {value : α} (heeds : Heeds result complaints Good) (loaded : result = .ok value) :
    Good value := by
  rcases heeds_iff.mp heeds with ⟨first, -, failed⟩ | ⟨-, other, found, good⟩
  · cases loaded.symm.trans failed
  · rwa [Except.ok.inj (loaded.symm.trans found)]

theorem Heeds.imp {Best : α → Prop} (heeds : Heeds result complaints Good)
    (better : ∀ value, Good value → Best value) : Heeds result complaints Best := by
  rw [heeds_iff] at heeds ⊢
  exact heeds.imp_right fun ⟨clean, value, found, good⟩ => ⟨clean, value, found, better value good⟩

theorem Heeds.bind {next : α → Loaded Fault β} {later : List (Option (CredentialsError Fault))}
    {Best : β → Prop}
    (heeds : Heeds result complaints Good) (rest : ∀ value, Good value → Heeds (next value) later Best) :
    Heeds (result >>= next) (complaints ++ later) Best := by
  rcases heeds_iff.mp heeds with ⟨error, first, rfl⟩ | ⟨clean, value, rfl, good⟩
  · exact heeds_iff.mpr (.inl ⟨error, by rw [List.findSome?_append, first, Option.some_or], rfl⟩)
  · unfold Heeds
    rw [List.findSome?_append, clean, Option.none_or]
    exact rest value good

theorem Heeds.map {Best : β → Prop} {into : α → β} (heeds : Heeds result complaints Good)
    (better : ∀ value, Good value → Best (into value)) : Heeds (result.map into) complaints Best := by
  rw [← List.append_nil complaints]
  exact heeds.bind fun value good => heeds_pure (better value good)

theorem heeds_mapError {ε : Type} (answer : Except ε α) (blame : ε → CredentialsError Fault) :
    Heeds (answer.mapError blame) [(fault? answer).map blame] fun value => answer = .ok value := by
  cases answer with
  | error cause => exact rfl
  | ok value => exact ⟨value, rfl, rfl⟩

theorem heeds_mapM {decode : α → Loaded Fault β} {complaint : α → Option (CredentialsError Fault)}
    {Good : α → β → Prop} (heeds : ∀ value, Heeds (decode value) [complaint value] (Good value))
    (values : List α) :
    Heeds (values.mapM decode) (values.map complaint) (List.Forall₂ Good values) := by
  induction values with
  | nil => exact heeds_pure .nil
  | cons value later ih =>
    rw [List.mapM_cons, List.map_cons, ← List.singleton_append, ← List.append_nil (later.map complaint)]
    exact (heeds value).bind fun result good => ih.bind fun results all => heeds_pure (.cons good all)

end Loaded

-- What is documented of the tools that loading is done with.

namespace Tools

variable {Root Verifier Key Fault : Type}

-- A verifier is refused only where there is no root.
def VerifiesByAnyRoot (tools : Tools Root Verifier Key Fault) : Prop :=
  ∀ roots, roots ≠ [] → ∃ verifier, tools.verifier roots = .ok verifier

-- Whether clients are verified has no part in the check of the server's own key and chain.
def KeyApart (tools : Tools Root Verifier Key Fault) : Prop :=
  ∀ verifier chain encoded, tools.key (some verifier) chain encoded = tools.key none chain encoded

-- A verifier has clients told whom its roots belong to.
def HintsAtRoots (tools : Tools Root Verifier Key Fault) : Prop :=
  ∀ roots verifier, tools.verifier roots = .ok verifier → tools.hints verifier = roots.map tools.subject

-- Clients are verified by all of the roots if they are to be verified, and else not at all.
structure Verifying (tools : Tools Root Verifier Key Fault) (roots : List Root) (verifyClient : Bool)
    (verifier : Option Verifier) : Prop where
  asked : verifyClient = true → ∃ made, verifier = some made ∧ tools.verifier roots = .ok made
  unasked : verifyClient = false → verifier = none

end Tools

variable {Root Verifier Key Fault : Type} (tools : Tools Root Verifier Key Fault)

namespace Material

def sectionsIn (files : Files) (path : String) : List Pem.Section :=
  match files path with
  | .ok contents => (tools.sections contents).1
  | .error _ => []

def certificatesIn (files : Files) (path : String) : List Bytes :=
  ((sectionsIn tools files path).filter fun pem => pem.label = .certificate).map Pem.Section.contents

def privateKeyIn? (files : Files) (path : String) : Option (KeyForm × Bytes) :=
  (sectionsIn tools files path).findSome? keyOf?

def unreadable? (files : Files) (path : String) : Option (CredentialsError Fault) :=
  (fault? (files path)).map (.unreadable path)

def malformed? (files : Files) (path : String) : Option (CredentialsError Fault) :=
  match files path with
  | .ok contents => (tools.sections contents).2.map (.unreadable path)
  | .error _ => none

def certificateless? (files : Files) (path : String) : Option (CredentialsError Fault) :=
  if certificatesIn tools files path = [] then some (.noCertificates path) else none

def distrusted? (encoded : Bytes) : Option (CredentialsError Fault) :=
  (fault? (tools.root encoded)).map .refused

-- A fault behind the first private key is not met.
def malformedBeforeKey? (files : Files) (path : String) : Option (CredentialsError Fault) :=
  if privateKeyIn? tools files path = none then malformed? tools files path else none

def keyless? (files : Files) (path : String) : Option (CredentialsError Fault) :=
  if privateKeyIn? tools files path = none then some (.noPrivateKey path) else none

def refused? (settings : TlsSettings) (files : Files) : Option (CredentialsError Fault) :=
  match privateKeyIn? tools files settings.keyFile with
  | some encoded =>
    (fault? (tools.key none (certificatesIn tools files settings.certFile) encoded)).map .refused
  | none => none

def certificateComplaints (files : Files) (path : String) : List (Option (CredentialsError Fault)) :=
  [unreadable? files path, malformed? tools files path, certificateless? tools files path]

def keyComplaints (files : Files) (path : String) : List (Option (CredentialsError Fault)) :=
  [unreadable? files path, malformedBeforeKey? tools files path, keyless? tools files path]

def fileComplaints (settings : TlsSettings) (files : Files) : List (Option (CredentialsError Fault)) :=
  certificateComplaints tools files settings.caFile ++
    (certificatesIn tools files settings.caFile).map (distrusted? tools) ++
    (certificateComplaints tools files settings.certFile ++ keyComplaints tools files settings.keyFile)

-- All that can be wrong, in the order in which it is found.
def complaints (settings : TlsSettings) (files : Files) : List (Option (CredentialsError Fault)) :=
  fileComplaints tools settings files ++ [refused? tools settings files]

open Loaded (Heeds heeds_one heeds_pure heeds_mapM heeds_mapError)

theorem heeds_readSections (files : Files) (path : String) :
    Heeds (readSections tools files path) [unreadable? files path] fun found =>
      ∃ contents, files path = .ok contents ∧ found = tools.sections contents := by
  unfold readSections unreadable?
  cases files path with
  | error cause => exact rfl
  | ok contents => exact ⟨_, rfl, contents, rfl, rfl⟩

theorem heeds_readCertificates (files : Files) (path : String) :
    Heeds (readCertificates tools files path) (certificateComplaints tools files path) fun found =>
      found = certificatesIn tools files path ∧ found ≠ [] := by
  refine (heeds_readSections tools files path).bind ?_
  rintro ⟨sections, fault⟩ ⟨contents, readable, same⟩
  have malformed : malformed? tools files path = fault.map (.unreadable path) := by
    simp only [malformed?, readable, ← same]
  have certificates : certificatesIn tools files path =
      (sections.filter fun pem => pem.label = .certificate).map Pem.Section.contents := by
    simp only [certificatesIn, sectionsIn, readable, ← same]
  cases fault with
  | some cause =>
    rw [malformed]
    exact rfl
  | none =>
    rw [malformed, certificateless?, certificates]
    simp only
    cases sections.filter fun pem => pem.label = .certificate with
    | nil => exact rfl
    | cons first later => exact ⟨_, rfl, rfl, List.cons_ne_nil _ _⟩

theorem heeds_readRoots (files : Files) (path : String) :
    Heeds (readRoots tools files path)
      (certificateComplaints tools files path ++
        (certificatesIn tools files path).map (distrusted? tools)) fun roots =>
      List.Forall₂ (fun encoded root => tools.root encoded = .ok root)
        (certificatesIn tools files path) roots ∧ roots ≠ [] := by
  refine (heeds_readCertificates tools files path).bind ?_
  rintro found ⟨rfl, nonempty⟩
  have each := heeds_mapM (fun encoded => heeds_mapError (tools.root encoded) .refused)
    (certificatesIn tools files path)
  refine each.imp fun roots all => ⟨all, ?_⟩
  rintro rfl
  exact nonempty (List.forall₂_nil_right_iff.mp all)

theorem heeds_readPrivateKey (files : Files) (path : String) :
    Heeds (readPrivateKey tools files path) (keyComplaints tools files path) fun key =>
      privateKeyIn? tools files path = some key := by
  refine (heeds_readSections tools files path).bind ?_
  rintro ⟨sections, fault⟩ ⟨contents, readable, same⟩
  have malformed : malformed? tools files path = fault.map (.unreadable path) := by
    simp only [malformed?, readable, ← same]
  have key : privateKeyIn? tools files path = sections.findSome? keyOf? := by
    simp only [privateKeyIn?, sectionsIn, readable, ← same]
  rw [malformedBeforeKey?, keyless?, malformed, key]
  simp only
  cases sections.findSome? keyOf? with
  | some first => exact ⟨first, rfl, rfl⟩
  | none =>
    cases fault with
    | some cause => exact rfl
    | none => exact rfl

structure Found (settings : TlsSettings) (files : Files) (material : Material Root) : Prop where
  roots : List.Forall₂ (fun encoded root => tools.root encoded = .ok root)
    (certificatesIn tools files settings.caFile) material.roots
  trusting : material.roots ≠ []
  chain : material.chain = certificatesIn tools files settings.certFile
  key : privateKeyIn? tools files settings.keyFile = some material.key

theorem heeds_load (settings : TlsSettings) (files : Files) :
    Heeds (load tools settings files) (fileComplaints tools settings files)
      (Found tools settings files) := by
  refine (heeds_readRoots tools files settings.caFile).bind fun roots trusted => ?_
  refine (heeds_readCertificates tools files settings.certFile).bind fun chain own => ?_
  rw [← List.append_nil (keyComplaints tools files settings.keyFile)]
  refine (heeds_readPrivateKey tools files settings.keyFile).bind fun key found => ?_
  exact heeds_pure ⟨trusted.1, trusted.2, own.1, found⟩

variable {tools}

theorem exists_verifier (verifies : tools.VerifiesByAnyRoot) {material : Material Root}
    (trusting : material.roots ≠ []) (verifyClient : Bool) :
    ∃ verifier, material.verifier tools verifyClient = .ok verifier ∧
      tools.Verifying material.roots verifyClient verifier := by
  cases verifyClient with
  | false => exact ⟨none, rfl, nofun, fun _ => rfl⟩
  | true =>
    obtain ⟨made, succeeds⟩ := verifies material.roots trusting
    refine ⟨some made, ?_, fun _ => ⟨made, rfl, succeeds⟩, nofun⟩
    simp only [Material.verifier, succeeds]
    rfl

theorem toCredentials_of_trusting (verifies : tools.VerifiesByAnyRoot) (apart : tools.KeyApart)
    {material : Material Root} (trusting : material.roots ≠ []) (verifyClient : Bool) :
    ∃ verifier, tools.Verifying material.roots verifyClient verifier ∧
      material.toCredentials tools verifyClient =
        ((tools.key none material.chain material.key).mapError .refused).map fun key =>
          { chain := material.chain, key, verifier } := by
  obtain ⟨verifier, made, verifying⟩ := exists_verifier verifies trusting verifyClient
  have same : tools.key verifier material.chain material.key =
      tools.key none material.chain material.key := by
    cases verifier with
    | none => rfl
    | some one => exact apart one material.chain material.key
  refine ⟨verifier, verifying, ?_⟩
  simp only [toCredentials, made, bind, Except.bind, same]
  cases tools.key none material.chain material.key <;> rfl

end Material

namespace CredentialsError

def Blames (settings : TlsSettings) (files : Files) : CredentialsError Fault → Prop
  | .unreadable path cause =>
    path ∈ [settings.caFile, settings.certFile, settings.keyFile] ∧
      (files path = .error cause ∨
        ∃ contents, files path = .ok contents ∧ (tools.sections contents).2 = some cause)
  | .noCertificates path =>
    path ∈ [settings.caFile, settings.certFile] ∧ Material.certificatesIn tools files path = []
  | .noPrivateKey path => path = settings.keyFile ∧ Material.privateKeyIn? tools files path = none
  -- A file without roots is at fault before they are missed.
  | .unverifiable _ => False
  | .refused _ => True

variable {tools} {settings : TlsSettings} {files : Files} {path : String}
  {error : CredentialsError Fault}

theorem blames_of_unreadable (complaint : Material.unreadable? files path = some error)
    (named : path ∈ [settings.caFile, settings.certFile, settings.keyFile]) :
    error.Blames tools settings files := by
  unfold Material.unreadable? at complaint
  cases found : files path with
  | ok contents => simp [found, fault?] at complaint
  | error cause =>
    rw [found] at complaint
    obtain rfl := Option.some.inj complaint
    exact ⟨named, .inl found⟩

theorem blames_of_malformed (complaint : Material.malformed? tools files path = some error)
    (named : path ∈ [settings.caFile, settings.certFile, settings.keyFile]) :
    error.Blames tools settings files := by
  unfold Material.malformed? at complaint
  cases found : files path with
  | error cause => simp [found] at complaint
  | ok contents =>
    rw [found] at complaint
    obtain ⟨cause, met, rfl⟩ := Option.map_eq_some_iff.mp complaint
    exact ⟨named, .inr ⟨contents, found, met⟩⟩

theorem blames_of_certificateComplaints
    (complaint : some error ∈ Material.certificateComplaints tools files path)
    (named : path ∈ [settings.caFile, settings.certFile]) : error.Blames tools settings files := by
  have among : path ∈ [settings.caFile, settings.certFile, settings.keyFile] := by
    simp only [List.mem_cons, List.not_mem_nil, or_false] at named ⊢
    exact named.imp_right .inl
  simp only [Material.certificateComplaints, List.mem_cons, List.not_mem_nil, or_false] at complaint
  rcases complaint with unreadable | malformed | without
  · exact blames_of_unreadable unreadable.symm among
  · exact blames_of_malformed malformed.symm among
  · obtain ⟨none, same⟩ := Option.ite_none_right_eq_some.mp without.symm
    obtain rfl := Option.some.inj same
    exact ⟨named, none⟩

theorem blames_of_keyComplaints
    (complaint : some error ∈ Material.keyComplaints tools files settings.keyFile) :
    error.Blames tools settings files := by
  have among : settings.keyFile ∈ [settings.caFile, settings.certFile, settings.keyFile] := by simp
  simp only [Material.keyComplaints, List.mem_cons, List.not_mem_nil, or_false] at complaint
  rcases complaint with unreadable | malformed | without
  · exact blames_of_unreadable unreadable.symm among
  · exact blames_of_malformed (Option.ite_none_right_eq_some.mp malformed.symm).2 among
  · obtain ⟨none, same⟩ := Option.ite_none_right_eq_some.mp without.symm
    obtain rfl := Option.some.inj same
    exact ⟨rfl, none⟩

theorem blames_of_refused (complaint : Material.refused? tools settings files = some error) :
    error.Blames tools settings files := by
  unfold Material.refused? at complaint
  split at complaint
  · obtain ⟨cause, _, rfl⟩ := Option.map_eq_some_iff.mp complaint
    exact trivial
  · cases complaint

theorem blames_of_complaints (complaint : some error ∈ Material.complaints tools settings files) :
    error.Blames tools settings files := by
  simp only [Material.complaints, Material.fileComplaints, List.mem_append, List.mem_singleton] at complaint
  rcases complaint with ((ofRoots | distrusted) | ofChain | ofKey) | refused
  · exact blames_of_certificateComplaints ofRoots (by simp)
  · obtain ⟨encoded, _, refused⟩ := List.mem_map.mp distrusted
    obtain ⟨cause, _, rfl⟩ := Option.map_eq_some_iff.mp refused
    exact trivial
  · exact blames_of_certificateComplaints ofChain (by simp)
  · exact blames_of_keyComplaints ofKey
  · exact blames_of_refused refused.symm

end CredentialsError

namespace Credentials

structure Presents (settings : TlsSettings) (files : Files) (credentials : Credentials Verifier Key) :
    Prop where
  chain : credentials.chain = Material.certificatesIn tools files settings.certFile
  key : ∃ encoded, Material.privateKeyIn? tools files settings.keyFile = some encoded ∧
    tools.key none credentials.chain encoded = .ok credentials.key
  verifier : ∃ roots, List.Forall₂ (fun encoded root => tools.root encoded = .ok root)
      (Material.certificatesIn tools files settings.caFile) roots ∧
    tools.Verifying roots settings.verifyClient credentials.verifier

theorem load_eq_toCredentials (settings : TlsSettings) (files : Files) :
    (load tools settings files).2 =
      Material.load tools settings files >>= fun material =>
        material.toCredentials tools settings.verifyClient := by
  unfold load
  cases Material.load tools settings files <;> rfl

variable {tools}

theorem heeds_load (verifies : tools.VerifiesByAnyRoot) (apart : tools.KeyApart)
    (settings : TlsSettings) (files : Files) :
    Loaded.Heeds (load tools settings files).2 (Material.complaints tools settings files)
      (Presents tools settings files) := by
  rw [load_eq_toCredentials]
  refine (Material.heeds_load tools settings files).bind fun material found => ?_
  obtain ⟨verifier, verifying, same⟩ :=
    Material.toCredentials_of_trusting verifies apart found.trusting settings.verifyClient
  have checked := Loaded.heeds_mapError (tools.key none material.chain material.key) .refused
  rw [same, Material.refused?, found.key, ← found.chain]
  refine checked.map fun key sound => ?_
  exact ⟨found.chain, ⟨_, found.key, sound⟩, _, found.roots, verifying⟩

theorem blames_of_load (verifies : tools.VerifiesByAnyRoot) (apart : tools.KeyApart)
    {settings : TlsSettings} {files : Files} {error : CredentialsError Fault}
    (failed : (load tools settings files).2 = .error error) : error.Blames tools settings files := by
  have first := (heeds_load verifies apart settings files).findSome?_of_error failed
  obtain ⟨complaint, among, rfl⟩ := List.exists_of_findSome?_eq_some first
  exact CredentialsError.blames_of_complaints among

theorem programTools_verifiesByAnyRoot : programTools.VerifiesByAnyRoot := by
  intro roots nonempty
  exact ⟨⟨roots⟩, if_neg (by simpa using nonempty)⟩

theorem programTools_keyApart : programTools.KeyApart := fun _ _ _ => rfl

-- The first complaint of a fixed order is the answer, and one about a file names that file. Without any,
-- the files are used as they are, in full.
theorem load_fails_with_first_complaint (verifies : tools.VerifiesByAnyRoot) (apart : tools.KeyApart)
    (settings : TlsSettings) (files : Files) :
    (match (Material.complaints tools settings files).findSome? id with
      | some error => (load tools settings files).2 = .error error
      | none => ∃ credentials, (load tools settings files).2 = .ok credentials ∧
        Presents tools settings files credentials) ∧
      ∀ error, (load tools settings files).2 = .error error → error.Blames tools settings files :=
  ⟨heeds_load verifies apart settings files, fun _ => blames_of_load verifies apart⟩

-- The file with the roots ends within a section, which is found before its first certificate is looked
-- at, and before it is seen that there is no other file.
theorem load_fails_with_fault_behind_refused_root :
    let settings : TlsSettings := ⟨"root.pem", "server.crt", "key.pem", true⟩
    let text := "-----BEGIN CERTIFICATE-----\nAAAA\n-----END CERTIFICATE-----\n-----BEGIN X-----\n"
    let files : Files := fun path =>
      if path = "root.pem" then .ok text.toUTF8.data.toList else .error (.ofOs .noSuchEntry)
    programTools.VerifiesByAnyRoot ∧ programTools.KeyApart ∧
      Material.distrusted? programTools [0, 0, 0] = some (.refused (.certificate .badEncoding)) ∧
      (load programTools settings files).2 =
        .error (.unreadable "root.pem" ⟨.invalidData, "section end \"X\" missing"⟩) := by
  intro settings text files
  have loaded := load_fails_with_first_complaint programTools_verifiesByAnyRoot programTools_keyApart
    settings files
  have first : (Material.complaints programTools settings files).findSome? id =
      some (.unreadable "root.pem" ⟨.invalidData, "section end \"X\" missing"⟩) := by decide +kernel
  rw [first] at loaded
  exact ⟨programTools_verifiesByAnyRoot, programTools_keyApart, by decide +kernel, loaded.1⟩

end Credentials

end SecureEcho
