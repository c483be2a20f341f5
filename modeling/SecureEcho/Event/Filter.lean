import SecureEcho.Event
import SecureEcho.Text

namespace SecureEcho

structure FieldPattern where
  name : String
  hasValue : Bool
deriving DecidableEq, Repr

structure Directive where
  target : Option String := none
  span : Option String := none
  fields : List FieldPattern := []
  level : Option Level := some .trace
deriving DecidableEq, Repr

inductive DirectiveError where
  | malformed
  | unknownLevel
deriving DecidableEq, Repr

def DirectiveError.message : DirectiveError → String
  | .malformed => "invalid filter directive"
  | .unknownLevel =>
    "error parsing level filter: expected one of \"off\", \"error\", \"warn\", \"info\", \"debug\", " ++
    "\"trace\", or a number 0-5"

namespace Directive

-- Levels by number, and at zero the one that lets nothing through.
def levels : List (Option Level) := [none, some .error, some .warn, some .info, some .debug, some .trace]

def levelName : Option Level → String
  | none => "off"
  | some level => level.name.toLower

def number? (text : String) : Option Nat :=
  let digits := match text.toList with
    | '+' :: digits => digits
    | digits => digits
  if !digits.isEmpty && digits.all Char.isDigit then
    some (digits.foldl (fun value c => 10 * value + (c.toNat - '0'.toNat)) 0)
  else none

def level? (text : String) : Option (Option Level) :=
  match number? text with
  | some number => levels[number]?
  | none => levels.find? fun level => levelName level == text.toLower

def isStart (c : Char) : Bool := Text.isAlphanumeric c || c == '-' || c == ':' || c == '_'

inductive Stage where
  | start
  | bare (start : Nat)
  | span (start : Nat)
  | field (start : Nat)
  | fieldRead
  | spanRead
  | level (start : Nat)
deriving DecidableEq, Repr

def readField (text : String) : FieldPattern :=
  ⟨String.ofList (text.toList.takeWhile (· != '=')), text.toList.contains '='⟩

abbrev Progress := Directive × Stage

def readChar (whole : List Char) (progress : Progress) (c : Char) (place : Nat) :
    Except DirectiveError Progress :=
  let (directive, stage) := progress
  let since (start : Nat) : String := String.ofList ((whole.drop start).take (place - start))
  match stage, c with
  | .start, '[' => .ok (directive, .span (place + 1))
  | .start, c => if isStart c then .ok (directive, .bare place) else .error .malformed
  | .bare start, '=' => .ok ({ directive with target := some (since start) }, .level (place + 1))
  | .bare start, '[' => .ok ({ directive with target := some (since start) }, .span (place + 1))
  | .span start, ']' => .ok ({ directive with span := some (since start) }, .spanRead)
  | .span start, '\x7b' =>
    let span := if since start = "" then none else some (since start)
    .ok ({ directive with span }, .field (place + 1))
  | .field start, '\x7d' =>
    if since start = "" then .error .malformed
    else .ok ({ directive with fields := [readField (since start)] }, .fieldRead)
  | .fieldRead, ']' => .ok (directive, .spanRead)
  | .spanRead, '=' => .ok (directive, .level (place + 1))
  | .fieldRead, _ | .spanRead, _ => .error .malformed
  | _, _ => .ok progress

def readEnd (whole : List Char) (progress : Progress) : Except DirectiveError Directive :=
  let (directive, stage) := progress
  let since (start : Nat) : String := String.ofList (whole.drop start)
  match stage with
  | .bare start =>
    match level? (since start) with
    | some level => .ok { directive with level }
    | none => .ok { directive with target := some (since start) }
  | .level start =>
    if since start = "" then .ok directive
    else
      match level? (since start) with
      | some level => .ok { directive with level }
      | none => .error .unknownLevel
  | .spanRead => .ok directive
  | _ => .error .malformed

def trim (whole : List Char) : List Char :=
  ((whole.dropWhile Text.isSpace).reverse.dropWhile Text.isSpace).reverse

-- Reads one directive, which holds no comma. Blanks around it are passed over, but they still count
-- when a piece is cut out, so a directive with a blank in front of it means something else.
def parse (text : String) : Except DirectiveError Directive := do
  let whole := text.toList
  let progress ← (trim whole).zipIdx.foldlM (fun progress (c, place) =>
    readChar whole progress c place) ({}, .start)
  readEnd whole progress

def split (text : String) : List String := (text.splitOn ",").filter fun part => part ≠ ""

def readAll (text : String) : Except DirectiveError (List Directive) := (split text).mapM parse

def readSome (text : String) : List Directive × List String :=
  (split text).foldr (fun part (directives, warnings) =>
    match parse part with
    | .ok directive => (directive :: directives, warnings)
    | .error error => (directives, s!"ignoring `{part}`: {error.message}" :: warnings)) ([], [])

-- Whether the directive speaks of events wherever they occur: no event here lies in a span.
def isUnconditional (directive : Directive) : Bool :=
  directive.span.isNone && !directive.fields.any FieldPattern.hasValue

def covers (directive : Directive) (event : Event) : Bool :=
  (directive.target.all fun target => target.toList.isPrefixOf event.target.toList) &&
    directive.fields.all fun field => field.name == "message" || event.content.2.any (·.1 == field.name)

-- How specific a directive is by its target; to have none is less than any.
def reach (directive : Directive) : Nat := directive.target.elim 0 (·.utf8ByteSize + 1)

def fieldNames (directive : Directive) : List Char :=
  directive.fields.flatMap fun field => field.name.toList

def isSorted : List Char → List Char → Bool
  | [], _ => true
  | _ :: _, [] => false
  | c :: one, d :: two => c.toNat < d.toNat || c.toNat = d.toNat && isSorted one two

def isOutranked (one two : Directive) : Bool :=
  one.reach < two.reach || one.reach = two.reach &&
    (one.fields.length < two.fields.length ||
      one.fields.length = two.fields.length && isSorted one.fieldNames two.fieldNames)

end Directive

structure EventFilter where
  directives : List Directive
deriving DecidableEq, Repr

namespace EventFilter

def ofDirectives (directives : List Directive) : EventFilter :=
  ⟨if directives.isEmpty then [{ level := some .error }] else directives⟩

def deciding? (filter : EventFilter) (event : Event) : Option Directive :=
  (filter.directives.filter fun directive => directive.isUnconditional && directive.covers event).foldl
    (fun best next =>
      match best with
      | some best => some (if best.isOutranked next then next else best)
      | none => some next) none

def passes (filter : EventFilter) (event : Event) : Bool :=
  match filter.deciding? event with
  | some { level := some level, .. } => level.weight ≤ event.level.weight
  | _ => false

end EventFilter

end SecureEcho
