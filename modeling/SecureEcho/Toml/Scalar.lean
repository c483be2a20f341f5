import SecureEcho.Toml.Tree

namespace SecureEcho.Toml

namespace Reader

-- A character that may stand in a comment or in a string without escapes.
def isVisible (c : Char) : Bool := c == '\t' || (32 ≤ c.toNat && c.toNat != 127)

def isBlank (c : Char) : Bool := c == ' ' || c == '\t'

def isHexDigit (c : Char) : Bool := c.isDigit || ('a' ≤ c && c ≤ 'f') || ('A' ≤ c && c ≤ 'F')

def digitValue (c : Char) : Nat :=
  if c.isDigit then c.toNat - '0'.toNat
  else if 'a' ≤ c && c ≤ 'z' then c.toNat - 'a'.toNat + 10
  else c.toNat - 'A'.toNat + 10

def digitsValue (base : Nat) (digits : List Char) : Nat :=
  digits.foldl (fun value c => value * base + digitValue c) 0

def blanks : Reader Unit := discard (takeWhile isBlank)

def newline : Reader Unit := word "\n" <|> word "\r\n"

def comment : Reader Unit := do
  discard (char '#')
  discard (takeWhile isVisible)

def digits (digit? : Char → Bool) : Reader (List Char) := do
  let first ← one digit?
  let rest ← many (one digit? <|> (char '_' *> one digit?))
  -- A trailing underscore is left over, and nothing may follow a number but what ends a value.
  return first :: rest

def sign : Reader Bool := do
  match ← optional (one fun c => c == '+' || c == '-') with
  | some '-' => return true
  | _ => return false

def signedDigits : Reader (Bool × List Char) := do
  let negative ← sign
  match ← peek with
  | some '0' =>
    discard (char '0')
    return (negative, ['0'])
  | _ => return (negative, ← digits Char.isDigit)

def leastInteger : Int := -0x8000000000000000
def greatestInteger : Int := 0x7fffffffffffffff

def bounded (value : Int) : Reader Scalar :=
  if leastInteger ≤ value && value ≤ greatestInteger then pure (.integer value) else failure

def based (start : String) (base : Nat) (digit? : Char → Bool) : Reader Scalar := do
  word start
  bounded (digitsValue base (← digits digit?))

def integer : Reader Scalar := do
  if ← startsWith "0x" then based "0x" 16 isHexDigit
  else if ← startsWith "0o" then based "0o" 8 fun c => '0' ≤ c && c ≤ '7'
  else if ← startsWith "0b" then based "0b" 2 fun c => c == '0' || c == '1'
  else
    let (negative, digits) ← signedDigits
    let value : Int := digitsValue 10 digits
    bounded (if negative then -value else value)

def exponent : Reader Int := do
  discard (one fun c => c == 'e' || c == 'E')
  let negative ← sign
  let value : Int := digitsValue 10 (← digits Char.isDigit)
  return if negative then -value else value

-- A number with a fraction or an exponent. One too large is refused if it is positive, and is
-- without bound if it is negative.
def decimal : Reader Scalar := do
  let (negative, whole) ← signedDigits
  let fraction ← optional (char '.' *> digits Char.isDigit)
  let power ← optional exponent
  if fraction.isNone && power.isNone then failure
  let fraction := fraction.getD []
  let value := digitsValue 10 (whole ++ fraction)
  match Binary64.ofDecimal? negative value (power.getD 0 - fraction.length) with
  | some number => return .decimal number
  | none => if negative then return .unbounded true else failure

def special : Reader Scalar := do
  let negative ← sign
  (do word "inf"; return .unbounded negative) <|> (do word "nan"; return .undefined)

def twoDigits (least greatest : Nat) : Reader Nat := do
  let value := digitsValue 10 (← exactly 2 Char.isDigit)
  if least ≤ value && value ≤ greatest then return value else failure

def daysInMonth (year month : Nat) : Nat :=
  if month = 2 then
    if year % 4 = 0 && (year % 100 != 0 || year % 400 = 0) then 29 else 28
  else if month ∈ [4, 6, 9, 11] then 30
  else 31

def date : Reader Unit := do
  let year := digitsValue 10 (← exactly 4 Char.isDigit)
  discard (char '-')
  let month ← twoDigits 1 12
  discard (char '-')
  discard (twoDigits 1 (daysInMonth year month))

def time : Reader Unit := do
  discard (twoDigits 0 23)
  discard (char ':')
  discard (twoDigits 0 59)
  discard (char ':')
  discard (twoDigits 0 60)
  discard (optional (char '.' *> takeSome Char.isDigit))

def offset : Reader Unit :=
  discard (one fun c => c == 'Z' || c == 'z') <|> do
    discard (one fun c => c == '+' || c == '-')
    discard (twoDigits 0 23)
    discard (char ':')
    discard (twoDigits 0 59)

def moment : Reader Scalar := do
  let dated := do
    date
    discard (optional do
      discard (one fun c => c == 'T' || c == 't' || c == ' ')
      time
      discard (optional offset))
  dated <|> time
  return .moment

def numbered (digits : List Char) : Reader (List Char) :=
  let number := digitsValue 16 digits
  if number.isValidChar then pure [Char.ofNat number] else failure

def escape : Reader (List Char) := do
  discard (char '\\')
  match ← one fun _ => true with
  | 'b' => return ['\x08']
  | 't' => return ['\t']
  | 'n' => return ['\n']
  | 'f' => return ['\x0c']
  | 'r' => return ['\r']
  | '"' => return ['"']
  | '\\' => return ['\\']
  | 'u' => numbered (← exactly 4 isHexDigit)
  | 'U' => numbered (← exactly 8 isHexDigit)
  | _ => failure

def isPlainBasic (c : Char) : Bool := isVisible c && c != '"' && c != '\\'

def isPlainLiteral (c : Char) : Bool := isVisible c && c != '\''

def basicString : Reader String := do
  discard (char '"')
  let pieces ← many (takeSome isPlainBasic <|> escape)
  discard (char '"')
  return String.ofList pieces.flatten

def literalString : Reader String := do
  discard (char '\'')
  let body ← takeWhile isPlainLiteral
  discard (char '\'')
  return String.ofList body

def continuation : Reader (List Char) := do
  discard (char '\\')
  blanks
  newline
  discard (many (discard (takeSome isBlank) <|> newline))
  return []

-- The end of a line counts as one line feed however it is written.
def lineBreak : Reader (List Char) := do
  newline
  return ['\n']

def innerQuotes (quote : Char) : Reader (List Char) := do
  let run ← takeSome (· == quote)
  if run.length ≤ 2 then return run else failure

-- The three quotes that end the string, after up to two that belong to it.
def closingQuotes (quote : Char) : Reader (List Char) := do
  let run ← takeSome (· == quote)
  if 3 ≤ run.length && run.length ≤ 5 then return run.drop 3 else failure

-- Between triple quotes; an end of line right after the opening ones does not count.
def longString (quote : Char) (piece : Reader (List Char)) : Reader String := do
  word (String.ofList [quote, quote, quote])
  discard (optional newline)
  let pieces ← many (piece <|> lineBreak <|> innerQuotes quote)
  let last ← closingQuotes quote
  return String.ofList (pieces.flatten ++ last)

def string : Reader String := do
  if ← startsWith "\"\"\"" then longString '"' (takeSome isPlainBasic <|> continuation <|> escape)
  else if ← startsWith "'''" then longString '\'' (takeSome isPlainLiteral)
  else basicString <|> literalString

def scalar : Reader Scalar := do
  match ← peek with
  | some '"' | some '\'' => return .text (← string)
  | some 't' => word "true"; return .boolean true
  | some 'f' => word "false"; return .boolean false
  | _ => moment <|> decimal <|> special <|> integer

end Reader

end SecureEcho.Toml
