import SecureEcho.Basic

namespace SecureEcho

def numberIn? (base : Nat) (digits : List Char) : Option Nat :=
  let value? (c : Char) : Option Nat :=
    let value :=
      if c.isDigit then c.toNat - '0'.toNat
      else if 'a' ≤ c && c ≤ 'f' then c.toNat - 'a'.toNat + 10
      else if 'A' ≤ c && c ≤ 'F' then c.toNat - 'A'.toNat + 10
      else base
    if value < base then some value else none
  if digits.isEmpty then none
  else digits.foldlM (fun total c => (value? c).map (base * total + ·)) 0

structure Ipv4 where
  value : UInt32
deriving DecidableEq, Repr

namespace Ipv4

def loopback : Ipv4 := ⟨0x7f000001⟩

def octets (address : Ipv4) : List Nat :=
  let value := address.value.toNat
  [value / 0x1000000, value / 0x10000 % 256, value / 0x100 % 256, value % 256]

def text (address : Ipv4) : String := ".".intercalate (address.octets.map toString)

def part? (text : String) : Option Nat :=
  match text.toList with
  | '0' :: 'x' :: digits | '0' :: 'X' :: digits => numberIn? 16 digits
  | '0' :: digits => numberIn? 8 ('0' :: digits)
  | digits => numberIn? 10 digits

-- Parts after those that make up `total` already; the last one fills the `left` bytes.
def joinParts? (total : Nat) : (left : Nat) → List Nat → Option Nat
  | _, [] => none
  | left, [last] => if last < Nat.pow 256 left then some (total * Nat.pow 256 left + last) else none
  | 0, _ => none
  | left + 1, part :: later => if part < 256 then joinParts? (total * 256 + part) left later else none

def ofParts? (text : String) : Option Ipv4 := do
  let parts ← (text.splitOn ".").mapM part?
  if 4 < parts.length then none
  return ⟨UInt32.ofNat (← joinParts? 0 4 parts)⟩

def octet? (text : String) : Option Nat := do
  let value ← numberIn? 10 text.toList
  if value < 256 && text = toString value then some value else none

def ofText? (text : String) : Option Ipv4 := do
  let parts ← (text.splitOn ".").mapM octet?
  if parts.length = 4 then return ⟨UInt32.ofNat (← joinParts? 0 4 parts)⟩ else none

end Ipv4

structure Ipv6 where
  groups : List UInt16
deriving DecidableEq, Repr

namespace Ipv6

def group? (text : String) : Option UInt16 := do
  let value ← numberIn? 16 text.toList
  if text.length ≤ 4 then some (UInt16.ofNat value) else none

def groups? (text : String) : Option (List UInt16) :=
  if text.isEmpty then some [] else (text.splitOn ":").mapM group?

def lastGroups? (text : String) : Option (List UInt16) :=
  match (text.splitOn ":").reverse with
  | last :: earlier =>
    match Ipv4.ofText? last with
    | some address => do
      let high := UInt16.ofNat (address.value.toNat / 0x10000)
      let low := UInt16.ofNat address.value.toNat
      return (← earlier.reverse.mapM group?) ++ [high, low]
    | none => groups? text
  | [] => none

-- A double colon stands for one zero group or more, at one place.
def ofText? (text : String) : Option Ipv6 := do
  match text.splitOn "::" with
  | [whole] =>
    let groups ← lastGroups? whole
    if groups.length = 8 then some ⟨groups⟩ else none
  | [front, back] =>
    let front ← groups? front
    let back ← lastGroups? back
    if front.length + back.length ≤ 7 then
      some ⟨front ++ List.replicate (8 - front.length - back.length) 0 ++ back⟩
    else none
  | _ => none

def ofScoped? (text : String) : Option Ipv6 :=
  match text.splitOn "%" with
  | [address] => ofText? address
  | [address, scope] => do
    let number ← numberIn? 10 scope.toList
    if number < 0x100000000 then ofText? address else none
  | _ => none

end Ipv6

inductive Address where
  | ipv4 (address : Ipv4)
  | ipv6 (address : Ipv6)
deriving DecidableEq, Repr

structure Endpoint where
  address : Ipv4
  port : UInt16
deriving DecidableEq, Repr

namespace Endpoint

def text (endpoint : Endpoint) : String := s!"{endpoint.address.text}:{endpoint.port}"

end Endpoint

namespace Host

def unknownName : IoError :=
  ⟨.uncategorized, "failed to lookup address information: Temporary failure in name resolution"⟩

def addresses (host : String) : Except IoError (List Address) :=
  match Ipv4.ofParts? host, Ipv6.ofScoped? host with
  | some address, _ => .ok [.ipv4 address]
  | none, some address => .ok [.ipv6 address]
  | none, none =>
    if host.toList.contains '\x00' then .error .zeroInName
    else if host = "localhost" then .ok [.ipv4 .loopback]
    else .error unknownName

def ipv4? : Address → Option Ipv4
  | .ipv4 address => some address
  | .ipv6 _ => none

def resolve (host : String) (port : UInt16) : Except IoError Endpoint := do
  match (← addresses host).findSome? ipv4? with
  | some address => return ⟨address, port⟩
  | none => throw ⟨.addressNotAvailable, s!"no IPv4 address for {host}:{port}"⟩

end Host

end SecureEcho
