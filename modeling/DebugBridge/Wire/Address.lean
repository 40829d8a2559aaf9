import DebugBridge.Text.Lines
import DebugBridge.Text.Numeral
import DebugBridge.Text.Reader

/-!
# Network addresses

An address of the Internet Protocol is written as four decimal octets with points between them, or as
eight groups of up to four hexadecimal digits with colons between them. Of the groups some zeros in a
row may be left out, which two colons show, and the last two may be written as four octets. An octet
has no needless zero in front.

An address is shown with the first longest row of two or more zero groups left out; an address that
stands for four octets (`::ffff:a.b.c.d`) shows them.
-/

namespace DebugBridge

open Text (Reader)

/-- Four octets. -/
structure Octets where
  /-- The first. -/
  a : UInt8
  /-- The second. -/
  b : UInt8
  /-- The third. -/
  c : UInt8
  /-- The fourth. -/
  d : UInt8
  deriving Repr, DecidableEq, Inhabited

namespace Octets

/-- The two groups that four octets make up. -/
def groups (o : Octets) : List UInt16 :=
  [o.a.toUInt16 * 256 + o.b.toUInt16, o.c.toUInt16 * 256 + o.d.toUInt16]

/-- Four octets as text. -/
def text (o : Octets) : String :=
  Text.join "." ([o.a, o.b, o.c, o.d].map fun x => toString x.toNat)

end Octets

/-- An address. -/
inductive IpAddress
  | octets (o : Octets)
  | groups (gs : Vector UInt16 8)
  deriving Repr, DecidableEq

namespace IpAddress

/-- The address of the machine itself. -/
def loopback : IpAddress := .octets ⟨127, 0, 0, 1⟩

/-! ## Reading -/

/-- An octet. -/
def readOctet : Reader UInt8 := fun cs =>
  let (ds, rest) := Text.spanDigits cs
  if 3 < ds.length ∨ (1 < ds.length ∧ ds.head? = some '0') then none
  else ((Text.decimal? ds).filter (· < 256)).map fun n => (UInt8.ofNat n, rest)

/-- An octet after a point. -/
def readNextOctet : Reader UInt8
  | '.' :: cs => readOctet cs
  | _ => none

/-- Four octets. -/
def readOctets : Reader Octets := fun cs => do
  let (a, cs) ← readOctet cs
  let (b, cs) ← readNextOctet cs
  let (c, cs) ← readNextOctet cs
  let (d, cs) ← readNextOctet cs
  pure (⟨a, b, c, d⟩, cs)

/-- A group. -/
def readGroup : Reader UInt16 := fun cs =>
  let ds := cs.takeWhile fun c => (Text.hexDigit? c).isSome
  if 4 < ds.length then none
  else (Text.hexadecimal? ds).map fun n =>
    (UInt16.ofNat n, cs.dropWhile fun c => (Text.hexDigit? c).isSome)

/-- Groups read off the front. -/
structure GroupsRead where
  /-- The groups. -/
  groups : List UInt16
  /-- Were the last two of them written as octets? -/
  endsInOctets : Bool
  /-- What follows. -/
  rest : List Char

/-- At most so many groups, with colons between them; before the first one none is expected. -/
def readGroups (isFirst : Bool) (most : Nat) (cs : List Char) : GroupsRead :=
  match most with
  | 0 => ⟨[], false, cs⟩
  | most + 1 =>
    let body? := if isFirst then some cs else Text.expect ':' cs
    match body? with
    | none => ⟨[], false, cs⟩
    | some body =>
      match if 0 < most then readOctets body else none with
      | some (o, rest) => ⟨o.groups, true, rest⟩
      | none =>
        match readGroup body with
        | none => ⟨[], false, cs⟩
        | some (g, rest) =>
          let more := readGroups false most rest
          ⟨g :: more.groups, more.endsInOctets, more.rest⟩

/-- The address of eight groups. -/
def ofGroups? (gs : List UInt16) : Option IpAddress :=
  if h : gs.length = 8 then some (.groups ⟨gs.toArray, by simpa using h⟩) else none

/-- Eight groups, some of which may be left out. -/
def readAllGroups : Reader IpAddress := fun cs =>
  let front := readGroups true 8 cs
  if front.groups.length = 8 then (ofGroups? front.groups).map fun a => (a, front.rest)
  else if front.endsInOctets then none
  else match front.rest with
    | ':' :: ':' :: rest =>
      let back := readGroups true (7 - front.groups.length) rest
      let missing := 8 - front.groups.length - back.groups.length
      (ofGroups? (front.groups ++ List.replicate missing 0 ++ back.groups)).map fun a =>
        (a, back.rest)
    | _ => none

/-- The address that a text names. -/
def ofText? (text : String) : Option IpAddress :=
  let found := match readOctets text.toList with
    | some (o, rest) => some (IpAddress.octets o, rest)
    | none => readAllGroups text.toList
  match found with
  | some (a, []) => some a
  | _ => none

/-! ## Showing -/

/-- The place and length of the first longest row of zeros. -/
def longestZeros (gs : List UInt16) : Nat × Nat :=
  go 0 (0, 0) 0 gs
where
  /-- The place reached, the best row so far, and the length of the row that ends there. -/
  go (here : Nat) (best : Nat × Nat) (run : Nat) : List UInt16 → Nat × Nat
    | [] => best
    | g :: rest =>
      if g = 0 then
        let best := if best.2 < run + 1 then (here - run, run + 1) else best
        go (here + 1) best (run + 1) rest
      else go (here + 1) best 0 rest

/-- Groups with colons between them. -/
def groupsText (gs : List UInt16) : String :=
  Text.join ":" (gs.map fun g => Text.hexText g.toNat)

/-- An address as text. -/
def text : IpAddress → String
  | .octets o => o.text
  | .groups gs =>
    match gs.toList with
    | [0, 0, 0, 0, 0, 0xFFFF, x, y] =>
      "::ffff:" ++ Octets.text ⟨(x >>> 8).toUInt8, x.toUInt8, (y >>> 8).toUInt8, y.toUInt8⟩
    | all =>
      let (place, length) := longestZeros all
      if 1 < length then
        groupsText (all.take place) ++ "::" ++ groupsText (all.drop (place + length))
      else groupsText all

end IpAddress

/-- A port at an address. -/
structure SocketAddress where
  /-- The address. -/
  host : IpAddress
  /-- The port. -/
  port : UInt16
  deriving Repr, DecidableEq

/-- A port at an address as text; groups stand in brackets. -/
def SocketAddress.text (s : SocketAddress) : String :=
  match s.host with
  | .octets o => o.text ++ s!":{s.port.toNat}"
  | host => "[" ++ host.text ++ s!"]:{s.port.toNat}"

end DebugBridge
