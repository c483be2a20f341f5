import SecureEcho.Basic

namespace SecureEcho.Der

namespace Tag

def boolean : UInt8 := 0x01
def integer : UInt8 := 0x02
def bitString : UInt8 := 0x03
def octetString : UInt8 := 0x04
def null : UInt8 := 0x05
def objectId : UInt8 := 0x06
def sequence : UInt8 := 0x30
-- A field marked with a number, which holds bits of its own.
def bare (number : UInt8) : UInt8 := 0x80 + number
-- A field marked with a number, which holds values.
def field (number : UInt8) : UInt8 := 0xa0 + number

end Tag

abbrev Reader := StateT Bytes Option

-- The length in front of a value: one byte, or a count of bytes and that many, as few as do.
def readLength : Bytes → Option (Nat × Bytes)
  | 0x81 :: a :: rest => if 128 ≤ a.toNat then some (a.toNat, rest) else none
  | 0x82 :: a :: b :: rest =>
    let length := a.toNat * 256 + b.toNat
    if 256 ≤ length then some (length, rest) else none
  | a :: rest => if a.toNat < 128 then some (a.toNat, rest) else none
  | [] => none

namespace Reader

def any : Reader (UInt8 × Bytes) := fun bytes =>
  match bytes with
  | [] => none
  | tag :: rest =>
    if tag &&& 0x1f == 0x1f then none
    else do
      let (length, rest) ← readLength rest
      if rest.length < length then none
      else some ((tag, rest.take length), rest.drop length)

def value (tag : UInt8) : Reader Bytes := do
  let (found, contents) ← any
  if found = tag then return contents else failure

def isNext (tag : UInt8) : Reader Bool := fun bytes => some (bytes.head? == some tag, bytes)

end Reader

def readAll {α : Type} (bytes : Bytes) (reader : Reader α) : Option α := do
  let (result, rest) ← reader.run bytes
  if rest.isEmpty then some result else none

namespace Reader

variable {α : Type}

def within (tag : UInt8) (inner : Reader α) : Reader α := do
  let contents ← value tag
  (readAll contents inner : Option α)

def natural : Reader Bytes := do
  match ← value Tag.integer with
  | [] => failure
  | [0] => return [0]
  | 0 :: next :: rest => if 128 ≤ next.toNat then return next :: rest else failure
  | first :: rest => if first.toNat < 128 then return first :: rest else failure

def small : Reader Nat := do
  match ← natural with
  | [byte] => return byte.toNat
  | _ => failure

def bits (tag : UInt8) : Reader Bytes := do
  match ← value tag with
  | 0 :: contents => return contents
  | _ => failure

end Reader

def numberOf (bytes : Bytes) : Nat := bytes.foldl (fun value byte => value * 256 + byte.toNat) 0

def bytesOf (count value : Nat) : Bytes :=
  (List.range count).reverse.map fun place => UInt8.ofNat (value / Nat.pow 256 place)

-- The bytes a length takes in the one form it has, for lengths of up to two bytes.
def lengthBytes (length : Nat) : Bytes :=
  if length < 128 then [UInt8.ofNat length]
  else if length < 256 then [0x81, UInt8.ofNat length]
  else [0x82, UInt8.ofNat (length / 256), UInt8.ofNat length]

def wrap (tag : UInt8) (contents : Bytes) : Bytes := tag :: lengthBytes contents.length ++ contents

def wrapBits (contents : Bytes) : Bytes := wrap Tag.bitString (0 :: contents)

def wrapNatural (bytes : Bytes) : Bytes :=
  let signed := match bytes with
    | first :: _ => if 128 ≤ first.toNat then 0 :: bytes else bytes
    | [] => [0]
  wrap Tag.integer signed

end SecureEcho.Der
