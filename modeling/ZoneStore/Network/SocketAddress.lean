/-!
# Socket addresses

An address of the internet protocol, of version 4 or 6, with the number of a service on it; one of
version 6 may have a scope. `SocketAddress.text` is the canonical text: the longest run of two or
more zero groups of a version 6 address is left out, hexadecimal digits are small, and an address
that carries one of version 4 shows it in decimal.
-/

set_option autoImplicit false

namespace ZoneStore

/-- An address of version 4: four octets. -/
structure AddressV4 where
  /-- The octets, the most significant first. -/
  octets : Vector UInt8 4
deriving DecidableEq, Repr

/-- An address of version 6: eight groups of 16 bits. -/
structure AddressV6 where
  /-- The groups, the most significant first. -/
  groups : Vector UInt16 8
deriving DecidableEq, Repr

/-- An address with the number of a service on it. -/
inductive SocketAddress where
  /-- An address of version 4. -/
  | v4 (address : AddressV4) (service : UInt16)
  /-- An address of version 6; scope zero is no scope. -/
  | v6 (address : AddressV6) (scope : UInt32) (service : UInt16)
deriving DecidableEq, Repr

/-- The octets in decimal, between dots. -/
def AddressV4.text (a : AddressV4) : String :=
  ".".intercalate (a.octets.toList.map fun octet => toString octet.toNat)

namespace AddressV6

/-- Groups in hexadecimal, between colons. -/
def groupsText (groups : List UInt16) : String :=
  ":".intercalate (groups.map fun group => String.ofList (Nat.toDigits 16 group.toNat))

/-- The address of version 4 that an address of version 6 carries, if its first groups say so. -/
def carried? (groups : List UInt16) : Option AddressV4 :=
  match groups with
  | [0, 0, 0, 0, 0, 0xFFFF, high, low] =>
    some ⟨#v[(high >>> 8).toUInt8, high.toUInt8, (low >>> 8).toUInt8, low.toUInt8]⟩
  | _ => none

/-- The length of the run of zero groups at the start. -/
def zeros (groups : List UInt16) : Nat := (groups.takeWhile (· == 0)).length

/-- The start and the length of the first of the longest runs of zero groups. -/
def longestRun (groups : List UInt16) : Nat × Nat :=
  (List.range groups.length).foldl
    (fun best start =>
      let length := zeros (groups.drop start)
      if best.2 < length then (start, length) else best)
    (0, 0)

/-- The canonical text of an address. -/
def text (a : AddressV6) : String :=
  let groups := a.groups.toList
  match carried? groups with
  | some address => "::ffff:" ++ address.text
  | none =>
    let (start, length) := longestRun groups
    if 1 < length then
      groupsText (groups.take start) ++ "::" ++ groupsText (groups.drop (start + length))
    else groupsText groups

end AddressV6

/-- The canonical text of an address with its service number. -/
def SocketAddress.text : SocketAddress → String
  | .v4 address service => address.text ++ ":" ++ toString service.toNat
  | .v6 address scope service =>
    let scopeText := if scope = 0 then "" else "%" ++ toString scope.toNat
    "[" ++ address.text ++ scopeText ++ "]:" ++ toString service.toNat

end ZoneStore
