import SecureEcho.Number.Binary64
import SecureEcho.Toml.Reader

namespace SecureEcho.Toml

structure Key where
  name : String
  position : Position
deriving DecidableEq, Repr

inductive Scalar where
  | text (value : String)
  | integer (value : Int)
  | decimal (value : Binary64)
  | unbounded (negative : Bool)
  | undefined
  | boolean (value : Bool)
  | moment
deriving DecidableEq, Repr

inductive Origin where
  -- Written out between braces, or the whole document.
  | complete
  -- Opened by a header of its own.
  | header
  -- Mentioned in the header of a table further down.
  | passing
  -- Mentioned in front of a dot in the key of a value.
  | dotted
deriving DecidableEq, Repr

-- A value of the tree. Tables keep their entries in the order of writing.
inductive Node where
  | scalar (position : Position) (value : Scalar)
  | list (position : Position) (items : List Node)
  | table (position : Option Position) (origin : Origin) (entries : List (Key × Node))
  -- Tables that headers in double brackets open one after another.
  | tables (elements : List Node)
deriving Repr

abbrev Entries := List (Key × Node)

namespace Entries

def find? (entries : Entries) (name : String) : Option Node :=
  (List.find? (fun entry => entry.1.name == name) entries).map Prod.snd

def replace (entries : Entries) (name : String) (node : Node) : Entries :=
  entries.map fun entry => if entry.1.name == name then (entry.1, node) else entry

def remove (entries : Entries) (name : String) : Entries :=
  entries.filter fun entry => entry.1.name != name

def add? (entries : Entries) (key : Key) (node : Node) : Option Entries :=
  match entries.find? key.name with
  | some _ => none
  | none => some (entries ++ [(key, node)])

end Entries

def changeLast? {α : Type} (change : α → Option α) : List α → Option (List α)
  | [] => none
  | [last] => (change last).map ([·])
  | value :: rest => (changeLast? change rest).map (value :: ·)

-- Changes the table at the end of a path. `step` is the origin that tables on the way are given when
-- they are not there yet: dotted keys pass only through tables that dotted keys or headers further
-- down have begun, and headers pass through every table.
def changeAt? (step : Origin) (change : Origin → Entries → Option Entries) :
    (path : List Key) → Origin → Entries → Option Entries
  | [], origin, entries => change origin entries
  | key :: path, _, entries =>
    match entries.find? key.name with
    | none => do
      let inner ← changeAt? step change path step []
      return entries ++ [(key, .table none step inner)]
    | some (.table position origin inner) =>
      if step = .dotted && (origin = .complete || origin = .header) then none
      else if origin = .complete then none
      else do
        let inner ← changeAt? step change path origin inner
        return entries.replace key.name (.table position origin inner)
    | some (.tables elements) => do
      let elements ← changeLast? (fun element =>
        match element with
        | .table position origin inner => do
          return .table position origin (← changeAt? step change path origin inner)
        | _ => none) elements
      return entries.replace key.name (.tables elements)
    | some _ => none

structure Assignment where
  path : List Key
  key : Key
  value : Node
deriving Repr

namespace Assignment

-- A plain key may not add to a table that dotted keys began, nor a dotted one to any other.
def addTo? (assignment : Assignment) (origin : Origin) (entries : Entries) : Option Entries :=
  changeAt? .dotted (fun reached inner =>
    if (reached == .dotted) == assignment.path.isEmpty then none
    else inner.add? assignment.key assignment.value) assignment.path origin entries

end Assignment

structure Header where
  path : List Key
  key : Key
  position : Position
deriving DecidableEq, Repr

namespace Header

-- Opens a table, which may have been mentioned by headers before it, at the end of its parent.
def openTable? (header : Header) (root : Entries) : Option Entries :=
  changeAt? .passing (fun _ parent =>
    match parent.find? header.key.name with
    | none => some (parent ++ [(header.key, .table (some header.position) .header [])])
    | some (.table _ .passing inner) =>
      some (parent.remove header.key.name ++
        [(header.key, .table (some header.position) .header inner)])
    | some _ => none) header.path .complete root

def openElement? (header : Header) (root : Entries) : Option Entries :=
  let element : Node := .table (some header.position) .header []
  changeAt? .passing (fun _ parent =>
    match parent.find? header.key.name with
    | none => some (parent ++ [(header.key, .tables [element])])
    | some (.tables elements) => some (parent.replace header.key.name (.tables (elements ++ [element])))
    | some _ => none) header.path .complete root

end Header

def inlineEntries? (assignments : List Assignment) : Option Entries :=
  assignments.foldlM (fun entries assignment => assignment.addTo? .complete entries) []

inductive Statement where
  | assign (assignment : Assignment)
  | openTable (header : Header)
  | openElement (header : Header)
deriving Repr

structure Draft where
  root : Entries := []
  current : List Key := []
deriving Repr

def Draft.add? (draft : Draft) : Statement → Option Draft
  | .assign assignment => do
    let root ← changeAt? .passing assignment.addTo? draft.current .complete draft.root
    return { draft with root }
  | .openTable header => do
    return ⟨← header.openTable? draft.root, header.path ++ [header.key]⟩
  | .openElement header => do
    return ⟨← header.openElement? draft.root, header.path ++ [header.key]⟩

def tree? (statements : List Statement) : Option Entries :=
  (statements.foldlM Draft.add? {}).map Draft.root

end SecureEcho.Toml
