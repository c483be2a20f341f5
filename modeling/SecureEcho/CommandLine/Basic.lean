import SecureEcho.CommandLine.Parameter
import SecureEcho.Settings.Basic

namespace SecureEcho

inductive UsageError where
  | missingArguments (parameters : List Parameter)
  | unknownArgument (word : String)
  | missingValue (parameter : Parameter)
  | repeated (parameter : Parameter)
  | unneededValue (parameter : Parameter) (value : String)
  | invalidValue (parameter : Parameter) (value reason : String)
deriving DecidableEq, Repr

inductive Refusal where
  | helpAsked
  | versionAsked
  | usage (error : UsageError)
deriving DecidableEq, Repr

namespace UsageError

def message : UsageError → String
  | .missingArguments parameters =>
    "error: the following required arguments were not provided:" ++
      String.join (parameters.map fun parameter => s!"\n  {parameter.describe}")
  | .unknownArgument word => s!"error: unexpected argument '{word}' found"
  | .missingValue parameter =>
    s!"error: a value is required for '{parameter.describe}' but none was supplied"
  | .repeated parameter =>
    s!"error: the argument '{parameter.describe}' cannot be used multiple times"
  | .unneededValue parameter value =>
    s!"error: unexpected value '{value}' for '{parameter.describe}' found; no more were expected"
  | .invalidValue parameter value reason =>
    s!"error: invalid value '{value}' for '{parameter.describe}': {reason}"

end UsageError

namespace Port

def leastNumber : Int := -0x8000000000000000
def greatestNumber : Int := 0x7fffffffffffffff

def addDigit (negative : Bool) (size : Nat) (c : Char) : Except String Nat :=
  let size := size * 10 + (c.toNat - '0'.toNat)
  if !c.isDigit then .error "invalid digit found in string"
  else if negative && -(size : Int) < leastNumber then .error "number too small to fit in target type"
  else if !negative && greatestNumber < size then .error "number too large to fit in target type"
  else .ok size

def number? (text : String) : Except String Int := do
  let (negative, digits) := match text.toList with
    | '-' :: digits => (true, digits)
    | '+' :: digits => (false, digits)
    | digits => (false, digits)
  if text.isEmpty then throw "cannot parse integer from empty string"
  if digits.isEmpty then throw "invalid digit found in string"
  let size ← digits.foldlM (addDigit negative) 0
  return if negative then -(size : Int) else size

def ofText (text : String) : Except String UInt16 := do
  let value ← number? text
  if 0 ≤ value && value ≤ 65535 then return UInt16.ofNat value.toNat
  else throw s!"{value} is not in 0..=65535"

end Port

namespace CommandLine

structure Given where
  host : Option String := none
  port : Option UInt16 := none
  config : Option String := none
  caFile : Option String := none
  certFile : Option String := none
  keyFile : Option String := none
  verifyClient : Bool := false
  logLevel : Option String := none
deriving DecidableEq, Repr

-- A parameter whose value has not been looked at; an option may still wait for it.
structure Pending where
  parameter : Parameter
  value : Option String
deriving DecidableEq, Repr

structure Progress where
  given : Given := {}
  pending : Option Pending := none
  placed : Nat := 0
  trailing : Bool := false
deriving DecidableEq, Repr

abbrev Taken := Except Refusal

def fail {α : Type} (error : UsageError) : Taken α := .error (.usage error)

def once {α : Type} (parameter : Parameter) (old : Option α) (value : Taken α) : Taken (Option α) :=
  if old.isSome then fail (.repeated parameter) else some <$> value

def fileName (parameter : Parameter) (value : String) : Taken String :=
  if value.isEmpty then fail (.missingValue parameter) else .ok value

def portValue (value : String) : Taken UInt16 :=
  (Port.ofText value).mapError fun reason => .usage (.invalidValue .port value reason)

def Given.set (given : Given) (parameter : Parameter) (value : String) : Taken Given := do
  let file (old : Option String) := once parameter old (fileName parameter value)
  match parameter with
  | .host => return { given with host := ← once parameter given.host (.ok value) }
  | .port => return { given with port := ← once parameter given.port (portValue value) }
  | .config => return { given with config := ← file given.config }
  | .caFile => return { given with caFile := ← file given.caFile }
  | .certFile => return { given with certFile := ← file given.certFile }
  | .keyFile => return { given with keyFile := ← file given.keyFile }
  | .logLevel => return { given with logLevel := ← once parameter given.logLevel (.ok value) }
  | .verifyClient | .help | .version => fail (.unneededValue parameter value)

def Given.raise (given : Given) (parameter : Parameter) : Taken Given :=
  match parameter with
  | .help => .error .helpAsked
  | .version => .error .versionAsked
  | .verifyClient =>
    if given.verifyClient then fail (.repeated parameter) else .ok { given with verifyClient := true }
  | _ => fail (.missingValue parameter)

def Progress.settle (progress : Progress) : Taken Progress := do
  match progress.pending with
  | none => return progress
  | some ⟨parameter, none⟩ => fail (.missingValue parameter)
  | some ⟨parameter, some value⟩ =>
    return { progress with given := ← progress.given.set parameter value, pending := none }

def Progress.option (progress : Progress) (parameter : Parameter) (attached : Option String) :
    Taken Progress := do
  let progress ← progress.settle
  match attached with
  | none => return { progress with pending := some ⟨parameter, none⟩ }
  | some value => return { progress with given := ← progress.given.set parameter value }

def Progress.flag (progress : Progress) (parameter : Parameter) : Taken Progress := do
  let progress ← progress.settle
  return { progress with given := ← progress.given.raise parameter }

def Progress.long (progress : Progress) (word : String) : Taken Progress :=
  let name := word.toList.takeWhile (· != '=')
  let attached := match word.toList.drop name.length with
    | _ :: value => some (String.ofList value)
    | [] => none
  let name := String.ofList name
  match Parameter.ofLong? name with
  | none => fail (.unknownArgument s!"--{name}")
  | some parameter =>
    if parameter.value?.isSome then progress.option parameter attached
    else
      match attached with
      | some value => fail (.unneededValue parameter value)
      | none => progress.flag parameter

def Progress.short (progress : Progress) : List Char → Taken Progress
  | [] => .ok progress
  | letter :: rest =>
    match Parameter.ofShort? letter with
    | none => fail (.unknownArgument s!"-{letter}")
    | some parameter =>
      if parameter.value?.isSome then
        let attached := match rest with
          | [] => none
          | '=' :: value => some (String.ofList value)
          | value => some (String.ofList value)
        progress.option parameter attached
      else do (← progress.flag parameter).short rest

def Progress.place (progress : Progress) (word : String) : Taken Progress := do
  let parameter ← match progress.placed with
    | 0 => pure Parameter.host
    | 1 => pure Parameter.port
    | _ => fail (.unknownArgument word)
  let progress ← progress.settle
  return { progress with pending := some ⟨parameter, some word⟩, placed := progress.placed + 1 }

def Progress.take (progress : Progress) (word : String) : Taken Progress :=
  if progress.trailing then progress.place word
  else
    match word.toList with
    | ['-', '-'] => .ok { progress with trailing := true }
    | '-' :: '-' :: long => progress.long (String.ofList long)
    | '-' :: first :: rest => progress.short (first :: rest)
    | _ =>
      match progress.pending with
      | some ⟨parameter, none⟩ => .ok { progress with pending := some ⟨parameter, some word⟩ }
      | _ => progress.place word

def Given.finish (given : Given) : Taken Arguments :=
  match given.host, given.port with
  | some host, some port =>
    .ok { host, port, config := given.config, caFile := given.caFile, certFile := given.certFile,
          keyFile := given.keyFile, verifyClient := given.verifyClient,
          logLevel := given.logLevel.getD defaultLevel }
  | host, port =>
    fail (.missingArguments
      ((if host.isNone then [.host] else []) ++ (if port.isNone then [.port] else [])))

def gather (words : List String) : Taken Given := do
  let progress ← words.foldlM Progress.take {}
  return (← progress.settle).given

abbrev WordReader := List String → Taken Given

def parse (read : WordReader) (words : List String) : Taken Arguments := do (← read words).finish

end CommandLine

end SecureEcho
