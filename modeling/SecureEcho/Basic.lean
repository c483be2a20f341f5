namespace SecureEcho

abbrev Bytes := List UInt8

namespace Bytes

def slice (bytes : Bytes) (start count : Nat) : Bytes := (bytes.drop start).take count

def overwrite (target : Bytes) (start : Nat) (patch : Bytes) : Bytes :=
  target.take start ++ patch ++ target.drop (start + patch.length)

-- A patch that would reach past the end is outside this statement: it lengthens the target.
theorem length_overwrite (target patch : Bytes) (start : Nat)
    (fits : start + patch.length ≤ target.length) :
    (overwrite target start patch).length = target.length := by
  simp [overwrite]; omega

theorem slice_overwrite (target patch : Bytes) (start : Nat) (inside : start ≤ target.length) :
    slice (overwrite target start patch) start patch.length = patch := by
  simp [slice, overwrite, Nat.min_eq_left inside]

@[simp] theorem overwrite_nil (target : Bytes) (start : Nat) : overwrite target start [] = target := by
  simp [overwrite]

end Bytes

inductive ErrorKind where
  | notFound
  | permissionDenied
  | addressInUse
  | addressNotAvailable
  | networkUnreachable
  | connectionReset
  | wouldBlock
  | notADirectory
  | isADirectory
  | invalidName
  | invalidInput
  | invalidData
  | unexpectedEnd
  | unsupported
  | other
  | uncategorized
deriving DecidableEq, Repr

structure IoError where
  kind : ErrorKind
  message : String
deriving DecidableEq, Repr

inductive OsError where
  | noSuchEntry
  | permissionDenied
  | notADirectory
  | isADirectory
  | notSupported
  | connectionReset
deriving DecidableEq, Repr

namespace OsError

def number : OsError → Nat
  | .noSuchEntry => 2
  | .permissionDenied => 13
  | .notADirectory => 20
  | .isADirectory => 21
  | .notSupported => 95
  | .connectionReset => 104

def text : OsError → String
  | .noSuchEntry => "No such file or directory"
  | .permissionDenied => "Permission denied"
  | .notADirectory => "Not a directory"
  | .isADirectory => "Is a directory"
  | .notSupported => "Operation not supported"
  | .connectionReset => "Connection reset by peer"

def kind : OsError → ErrorKind
  | .noSuchEntry => .notFound
  | .permissionDenied => .permissionDenied
  | .notADirectory => .notADirectory
  | .isADirectory => .isADirectory
  | .notSupported => .unsupported
  | .connectionReset => .connectionReset

end OsError

namespace IoError

def ofOs (cause : OsError) : IoError :=
  ⟨cause.kind, s!"{cause.text} (os error {cause.number})"⟩

-- A name that the system cannot be asked about, because it holds a zero byte.
def zeroInName : IoError := ⟨.invalidInput, "file name contained an unexpected NUL byte"⟩

def notText : IoError := ⟨.invalidData, "stream did not contain valid UTF-8"⟩

end IoError

abbrev Files := String → Except IoError Bytes

namespace Files

def readText (files : Files) (path : String) : Except IoError String := do
  let bytes ← files path
  match String.fromUTF8? (ByteArray.mk bytes.toArray) with
  | some text => return text
  | none => throw .notText

end Files

end SecureEcho
