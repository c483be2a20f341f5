namespace SecureEcho.Toml

-- Line and column of a character, both counted from one.
structure Position where
  line : Nat := 1
  column : Nat := 1
deriving DecidableEq, Repr

def Position.after (position : Position) (c : Char) : Position :=
  if c = '\n' then ⟨position.line + 1, 1⟩ else ⟨position.line, position.column + 1⟩

structure Cursor where
  rest : List Char
  position : Position := {}
deriving DecidableEq, Repr

abbrev Reader := StateT Cursor Option

namespace Reader

variable {α β : Type}

def position : Reader Position := fun cursor => some (cursor.position, cursor)

def peek : Reader (Option Char) := fun cursor => some (cursor.rest.head?, cursor)

def startsWith (word : String) : Reader Bool := fun cursor =>
  some (word.toList.isPrefixOf cursor.rest, cursor)

def one (class? : Char → Bool) : Reader Char := fun cursor =>
  match cursor.rest with
  | c :: rest => if class? c then some (c, ⟨rest, cursor.position.after c⟩) else none
  | [] => none

def char (c : Char) : Reader Char := one (· == c)

def word (text : String) : Reader Unit := text.toList.forM fun c => discard (char c)

def span (class? : Char → Bool) : List Char → Position → List Char → List Char × Cursor
  | c :: rest, position, taken =>
    if class? c then span class? rest (position.after c) (c :: taken)
    else (taken.reverse, ⟨c :: rest, position⟩)
  | [], position, taken => (taken.reverse, ⟨[], position⟩)

def takeWhile (class? : Char → Bool) : Reader (List Char) := fun cursor =>
  some (span class? cursor.rest cursor.position [])

def takeSome (class? : Char → Bool) : Reader (List Char) := do
  let taken ← takeWhile class?
  if taken.isEmpty then failure else return taken

def exactly (count : Nat) (class? : Char → Bool) : Reader (List Char) :=
  (List.replicate count ()).mapM fun _ => one class?

def optional (item : Reader α) : Reader (Option α) := (some <$> item) <|> pure none

def repeatWithin (item : Reader α) : (budget : List Char) → List α → Reader (List α)
  | [], done => pure done.reverse
  | _ :: budget, done => fun cursor =>
    match item cursor with
    | some (value, next) => repeatWithin item budget (value :: done) next
    | none => some (done.reverse, cursor)

-- Reads `item` until it fails. What is left is budget enough, for an item that takes characters
-- cannot be read more often than there are characters.
def many (item : Reader α) : Reader (List α) := fun cursor =>
  repeatWithin item cursor.rest [] cursor

-- Items with a separator between any two of them, perhaps none; the separator after the last item
-- is not taken.
def separated (item : Reader α) (separator : Reader β) : Reader (List α) := do
  match ← optional item with
  | none => return []
  | some first => return first :: (← many (separator *> item))

def separatedSome (item : Reader α) (separator : Reader β) : Reader (List α) := do
  return (← item) :: (← many (separator *> item))

def atEnd : Reader Unit := fun cursor => if cursor.rest.isEmpty then some ((), cursor) else none

end Reader

end SecureEcho.Toml
