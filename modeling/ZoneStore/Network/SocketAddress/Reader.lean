import ZoneStore.Network.SocketAddress

/-!
# Reading socket addresses

`SocketAddress.ofText?` reads the whole text as an address with a service number. An octet has at
most three digits and no leading zero; a group has at most four hexadecimal digits; service number
and scope are decimal numbers of any length within their range. In an address of version 6 one
`::` stands for one or more zero groups, and the last two groups may be written as an address of
version 4.
-/

set_option autoImplicit false

namespace ZoneStore.SocketAddress

/-- A reader takes a value off the start of a text, or fails and takes nothing. -/
abbrev Reader := StateT (List Char) Option

namespace Reader

/-- Takes the given character. -/
def exactly (c : Char) : Reader Unit := do
  match ← get with
  | d :: rest => if d = c then set rest else failure
  | [] => failure

/-- The value of a decimal or hexadecimal digit. -/
def digit? (base : Nat) (c : Char) : Option Nat :=
  let value? :=
    if c.isDigit then some (c.toNat - '0'.toNat)
    else if 'a' ≤ c ∧ c ≤ 'z' then some (c.toNat - 'a'.toNat + 10)
    else if 'A' ≤ c ∧ c ≤ 'Z' then some (c.toNat - 'A'.toNat + 10)
    else none
  value?.filter (· < base)

/-- Takes all the digits at the start, and gives their values. -/
def digits (base : Nat) : Reader (List Nat) := do
  let text ← get
  let run := text.takeWhile fun c => (digit? base c).isSome
  set (text.drop run.length)
  return run.filterMap (digit? base)

/-- Takes a number of at least one digit, below a bound. -/
def number (base bound : Nat) : Reader Nat := do
  let ds ← digits base
  let value := ds.foldl (fun n d => n * base + d) 0
  if ds.isEmpty || bound ≤ value then failure else return value

/-- Takes an octet: at most three digits, without a leading zero. -/
def octet : Reader UInt8 := do
  let ds ← digits 10
  let value := ds.foldl (fun n d => n * 10 + d) 0
  let leadingZero := ds.head? == some 0 && 1 < ds.length
  if ds.isEmpty || 3 < ds.length || leadingZero || 256 ≤ value then failure
  else return UInt8.ofNat value

/-- Takes an address of version 4. -/
def addressV4 : Reader AddressV4 := do
  let a ← octet
  exactly '.'
  let b ← octet
  exactly '.'
  let c ← octet
  exactly '.'
  let d ← octet
  return ⟨#v[a, b, c, d]⟩

/-- Takes a group of an address of version 6: at most four hexadecimal digits. -/
def group : Reader UInt16 := do
  let ds ← digits 16
  if ds.isEmpty || 4 < ds.length then failure
  else return UInt16.ofNat (ds.foldl (fun n d => n * 16 + d) 0)

/-- The two groups that an address of version 4 fills. -/
def pairOf (a : AddressV4) : List UInt16 :=
  let join (high low : UInt8) : UInt16 := high.toUInt16 <<< 8 ||| low.toUInt16
  [join a.octets[0] a.octets[1], join a.octets[2] a.octets[3]]

/-- Takes groups between colons as long as there are any, up to a limit, and tells whether the last
two were written as an address of version 4. `first` tells whether no group was taken before. -/
def groups (first : Bool) : Nat → Reader (List UInt16 × Bool)
  | 0 => return ([], false)
  | limit + 1 => do
    let separator : Reader Unit := if first then pure () else exactly ':'
    -- An address of version 4 needs room for two groups, and starts like a group; it is tried first.
    let embedded : Reader (Option AddressV4) :=
      if limit = 0 then pure none else (some <$> (separator *> addressV4)) <|> pure none
    match ← embedded with
    | some address => return (pairOf address, true)
    | none =>
      match ← (some <$> (separator *> group)) <|> pure none with
      | none => return ([], false)
      | some g => do
        let (more, isV4) ← groups false limit
        return (g :: more, isV4)

/-- Takes an address of version 6. -/
def addressV6 : Reader AddressV6 := do
  let (head, isV4) ← groups true 8
  if h : head.length = 8 then return ⟨⟨head.toArray, by simpa using h⟩⟩
  -- An address of version 4 stands at the end only.
  if isV4 then failure
  exactly ':'
  exactly ':'
  -- The double colon stands for one group at least.
  let (tail, _) ← groups true (7 - head.length)
  let all := head ++ List.replicate (8 - head.length - tail.length) 0 ++ tail
  if h : all.length = 8 then return ⟨⟨all.toArray, by simpa using h⟩⟩ else failure

/-- Takes a colon and a service number. -/
def service : Reader UInt16 := do
  exactly ':'
  return UInt16.ofNat (← number 10 UInt16.size)

/-- Takes a scope, if there is one. -/
def scope : Reader UInt32 :=
  (do exactly '%'; return UInt32.ofNat (← number 10 UInt32.size)) <|> pure 0

/-- Takes an address with a service number. -/
def socketAddress : Reader SocketAddress :=
  (do
    let address ← addressV4
    return .v4 address (← service)) <|>
  (do
    exactly '['
    let address ← addressV6
    let scope ← scope
    exactly ']'
    return .v6 address scope (← service))

end Reader

/-- Reads the whole text as an address with a service number. -/
def ofText? (text : String) : Option SocketAddress :=
  match Reader.socketAddress.run text.toList with
  | some (address, []) => some address
  | _ => none

end ZoneStore.SocketAddress
