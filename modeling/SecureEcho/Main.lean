import SecureEcho.Program

namespace SecureEcho

def ioErrorOf (error : IO.Error) : IoError :=
  match error with
  | .noFileOrDirectory .. => .ofOs .noSuchEntry
  | .permissionDenied .. => .ofOs .permissionDenied
  | .inappropriateType _ code _ =>
    .ofOs (if code.toNat = OsError.isADirectory.number then .isADirectory else .notADirectory)
  | other => ⟨.other, toString other⟩

def readPath (path : String) : IO (String × Except IoError Bytes) := do
  if path.toList.contains '\x00' then return (path, .error .zeroInName)
  match ← (IO.FS.readBinFile path).toBaseIO with
  | .ok contents => return (path, .ok contents.toList)
  | .error error => return (path, .error (ioErrorOf error))

def knownFiles (known : List (String × Except IoError Bytes)) : Files := fun path =>
  (known.lookup path).getD (.error (.ofOs .noSuchEntry))

def gatherFiles (words : List String) : IO Files := do
  match CommandLine.parse CommandLine.gather words with
  | .error _ => return knownFiles []
  | .ok arguments =>
    let first ← arguments.config.toList.mapM readPath
    match arguments.load Toml.parse? (knownFiles first) with
    | .error _ => return knownFiles first
    | .ok { tls, .. } =>
      let others ← [tls.caFile, tls.certFile, tls.keyFile].mapM readPath
      return knownFiles (first ++ others)

def noTransport : IoError := ⟨.unsupported, "no transport to listen with"⟩

end SecureEcho

open SecureEcho in
def main (words : List String) : IO UInt32 := do
  let directives ← IO.getEnv "RUST_LOG"
  let files ← gatherFiles words
  let start := Start.of { words, directives, files, listen := fun _ => .error noTransport }
  for event in start.log do IO.println event.line
  for complaint in start.complaints do IO.eprintln complaint
  match start.ending with
  | .answered text =>
    IO.print text
    return 0
  | .failed _ | .serving .. => return 1
