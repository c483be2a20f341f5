import SecureEcho.Toml.Scalar

namespace SecureEcho.Toml

namespace Reader

-- How deep values may lie within one another, and how many parts a dotted key may have.
def depthLimit : Nat := 79

def isBare (c : Char) : Bool := c.isAlphanum || c == '_' || c == '-'

def simpleKey : Reader Key := do
  let position ← position
  let name ← match ← peek with
    | some '"' => basicString
    | some '\'' => literalString
    | _ => String.ofList <$> takeSome isBare
  return { name, position }

def dottedKey : Reader (List Key × Key) := do
  let parts ← separatedSome (blanks *> simpleKey <* blanks) (char '.')
  if parts.length > depthLimit then failure
  match parts.getLast? with
  | some last => return (parts.dropLast, last)
  | none => failure

-- Blank space that may stand in a list: also ends of lines, and comments.
def listSpace : Reader Unit :=
  discard (many (discard (takeSome isBlank) <|> newline <|> comment))

def assignment (value : Reader Node) : Reader Assignment := do
  let (path, key) ← dottedKey
  discard (char '=')
  blanks
  return { path, key, value := ← value }

def value : (depth : Nat) → Reader Node
  | 0 => do
    let position ← position
    return .scalar position (← scalar)
  | depth + 1 => do
    let position ← position
    match ← peek with
    | some '[' =>
      discard (char '[')
      let items ← separated (listSpace *> value depth <* listSpace) (char ',')
      if !items.isEmpty then discard (optional (char ','))
      listSpace
      discard (char ']')
      return .list position items
    | some '{' =>
      discard (char '{')
      let assignments ← separated (assignment (value depth) <* blanks) (char ',')
      blanks
      discard (char '}')
      match inlineEntries? assignments with
      | some entries => return .table (some position) .complete entries
      | none => failure
    | _ => return .scalar position (← scalar)

def lineEnd : Reader Unit := do
  blanks
  discard (optional comment)
  newline <|> atEnd

def header : Reader Statement := do
  let position ← position
  if ← startsWith "[[" then
    word "[["
    let (path, key) ← dottedKey
    word "]]"
    return .openElement { path, key, position }
  else
    word "["
    let (path, key) ← dottedKey
    word "]"
    return .openTable { path, key, position }

def line : Reader (Option Statement) := do
  blanks
  match ← peek with
  | none => failure
  | some '[' => some <$> header <* lineEnd
  | some '#' | some '\n' | some '\r' => lineEnd *> pure none
  | some _ => (some ∘ .assign) <$> assignment (value depthLimit) <* lineEnd

def statements : Reader (List Statement) := do
  let lines ← many line
  blanks
  atEnd
  return lines.filterMap id

end Reader

def parse? (text : String) : Option Entries := do
  let cursor : Cursor := { rest := text.toList }
  let cursor := match cursor.rest with
    | '\ufeff' :: rest => { rest, position := cursor.position.after '\ufeff' }
    | _ => cursor
  let (statements, _) ← Reader.statements.run cursor
  tree? statements

end SecureEcho.Toml
