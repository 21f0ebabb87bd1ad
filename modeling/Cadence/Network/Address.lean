import Cadence.Text.Digits

/-!
# Network addresses

An address has four bytes or eight 16-bit groups, and a socket address adds a port, which follows
a colon. An address of groups stands in brackets there, possibly with a scope number behind a
percent sign.

Texts of one address differ: leading zeros of a group, the case of a letter and the place of the
double colon are free. Written addresses have one form: the longest run of at least two zero groups
becomes the double colon, the first one if several are longest, and an address that embeds one of
four bytes behind `::ffff:` shows it in dots.

## Main definitions

* `IpAddress`, `SocketAddress`: addresses
* `IpAddress.text`, `SocketAddress.text`: their one written form
* `IpAddress.ofText?`, `SocketAddress.ofText?`: the address that a text spells
-/

namespace Cadence

/-- The address of a host. -/
inductive IpAddress where
  | v4 (bytes : Vector UInt8 4)
  | v6 (groups : Vector UInt16 8)
  deriving DecidableEq, Repr

/-- The address of a socket. The scope is the interface that a local address of groups belongs to;
zero stands for none. -/
structure SocketAddress where
  ip : IpAddress
  port : UInt16
  scope : UInt32 := 0
  deriving DecidableEq, Repr

namespace IpAddress

/-- The address that stands for every interface of a host. -/
def unspecified : IpAddress := .v4 #v[0, 0, 0, 0]

/-- The address that stands for every host of the network. -/
def broadcast : IpAddress := .v4 #v[255, 255, 255, 255]

/-- The address by which a host reaches itself. -/
def loopback : IpAddress := .v4 #v[127, 0, 0, 1]

/-! ### Writing -/

/-- Four bytes in dots. -/
def dotted (bytes : List UInt8) : String := ".".intercalate (bytes.map fun b => toString b.toNat)

/-- Groups between colons. -/
def colons (groups : List UInt16) : String :=
  ":".intercalate (groups.map fun g => Text.hex 1 g.toNat)

/-- How many zero groups there are in front. -/
def zerosInFront (groups : List UInt16) : Nat := (groups.takeWhile (· == 0)).length

/-- Start and length of the first of the longest runs of zero groups. -/
def longestZeros : List UInt16 → Nat × Nat
  | [] => (0, 0)
  | g :: rest =>
    let here := zerosInFront (g :: rest)
    let (start, length) := longestZeros rest
    if length ≤ here then (0, here) else (start + 1, length)

/-- The four bytes that an address of groups embeds, if it does. -/
def embedded? (groups : List UInt16) : Option (List UInt8) :=
  match groups with
  | [0, 0, 0, 0, 0, 0xFFFF, high, low] =>
    some [(high >>> 8).toUInt8, high.toUInt8, (low >>> 8).toUInt8, low.toUInt8]
  | _ => none

/-- The written form of eight groups. -/
def groupsText (groups : List UInt16) : String :=
  match embedded? groups with
  | some bytes => "::ffff:" ++ dotted bytes
  | none =>
    let (start, length) := longestZeros groups
    if 1 < length then
      colons (groups.take start) ++ "::" ++ colons (groups.drop (start + length))
    else colons groups

/-- The written form of an address. -/
def text : IpAddress → String
  | v4 bytes => dotted bytes.toList
  | v6 groups => groupsText groups.toList

/-! ### Reading

A reader takes what it reads off the front of a text and leaves the rest. -/

/-- What a reader makes of a text, and the rest. -/
abbrev Read (α : Type) := List Char → Option (α × List Char)

/-- All digits in front, at least one. They must be of an accepted form and spell a number below
the bound. -/
def readNumber (radix bound : Nat) (accepted : List Char → Bool) : Read Nat := fun s =>
  let isDigit := fun c => (Text.digit? radix c).isSome
  let digits := s.takeWhile isDigit
  let value := digits.foldl (fun n c => radix * n + (Text.digit? radix c).getD 0) 0
  if digits ≠ [] ∧ accepted digits ∧ value < bound then some (value, s.dropWhile isDigit) else none

/-- A given character. -/
def readChar (c : Char) (s : List Char) : Option (List Char) :=
  match s with
  | d :: rest => if c = d then some rest else none
  | [] => none

/-- The separator, which only the first of several things does without. -/
def readSeparator (c : Char) (isFirst : Bool) (s : List Char) : Option (List Char) :=
  if isFirst then some s else readChar c s

/-- The digits of a byte: at most three, and no leading zero. -/
def isByteForm (digits : List Char) : Bool :=
  digits.length ≤ 3 && (digits.length ≤ 1 || digits.head? != some '0')

/-- A byte in decimal. -/
def readByte : Read UInt8 := fun s =>
  (readNumber 10 UInt8.size isByteForm s).map fun (n, rest) => (UInt8.ofNat n, rest)

/-- Four bytes between dots. -/
def readDotted : Read (Vector UInt8 4) := fun s => do
  let (a, s) ← readByte s
  let (b, s) ← readByte (← readChar '.' s)
  let (c, s) ← readByte (← readChar '.' s)
  let (d, s) ← readByte (← readChar '.' s)
  return (#v[a, b, c, d], s)

/-- A group in hexadecimal: at most four digits. -/
def readGroup : Read UInt16 := fun s =>
  (readNumber 16 UInt16.size (·.length ≤ 4) s).map fun (n, rest) => (UInt16.ofNat n, rest)

/-- Two groups from four bytes. -/
def pairUp (bytes : Vector UInt8 4) : List UInt16 :=
  [bytes[0].toUInt16 <<< 8 ||| bytes[1].toUInt16, bytes[2].toUInt16 <<< 8 ||| bytes[3].toUInt16]

/-- As many groups between colons as there are, but at most `room`, and whether four bytes in dots
ended them. Such bytes take the room of two groups. -/
def readGroups : Nat → Bool → List Char → (List UInt16 × Bool) × List Char
  | 0, _, s => (([], false), s)
  | room + 1, isFirst, s =>
    let inDots := if room = 0 then none else readSeparator ':' isFirst s >>= readDotted
    match inDots with
    | some (bytes, rest) => ((pairUp bytes, true), rest)
    | none =>
      match readSeparator ':' isFirst s >>= readGroup with
      | none => (([], false), s)
      | some (g, rest) =>
        let ((groups, dotted), rest) := readGroups room false rest
        ((g :: groups, dotted), rest)

/-- Eight groups from what stands before and behind the double colon. -/
def spread (front back : List UInt16) : Option IpAddress :=
  let groups := front ++ List.replicate (8 - front.length - back.length) 0 ++ back
  if h : groups.toArray.size = 8 then some (.v6 ⟨groups.toArray, h⟩) else none

/-- Eight groups, where a double colon stands for one zero group or more. Bytes in dots come last
of all. -/
def readV6 : Read IpAddress := fun s => do
  let ((front, dotted), s) := readGroups 8 true s
  if front.length = 8 then return (← spread front [], s)
  if dotted then none
  let s ← readChar ':' (← readChar ':' s)
  let ((back, _), s) := readGroups (7 - front.length) true s
  return (← spread front back, s)

/-- An address of either kind. -/
def readIp : Read IpAddress := fun s =>
  ((readDotted s).map fun (bytes, rest) => (.v4 bytes, rest)) <|> readV6 s

/-- What a reader makes of a whole text. -/
def whole? {α : Type} (read : Read α) (s : String) : Option α :=
  match read s.toList with
  | some (a, []) => some a
  | _ => none

/-- The address that a text spells. -/
def ofText? (s : String) : Option IpAddress := whole? readIp s

end IpAddress

namespace SocketAddress

open IpAddress

/-- The written form of a socket address. -/
def text (a : SocketAddress) : String :=
  let port := toString a.port.toNat
  match a.ip with
  | .v4 _ => s!"{a.ip.text}:{port}"
  | .v6 _ =>
    let scope := if a.scope = 0 then "" else s!"%{a.scope.toNat}"
    s!"[{a.ip.text}{scope}]:{port}"

/-- A port behind its colon. -/
def readPort : Read UInt16 := fun s => do
  let (n, s) ← readNumber 10 UInt16.size (fun _ => true) (← readChar ':' s)
  return (UInt16.ofNat n, s)

/-- A scope number behind its percent sign, if there is one. -/
def readScope : Read UInt32 := fun s =>
  match readChar '%' s >>= readNumber 10 UInt32.size (fun _ => true) with
  | some (n, rest) => some (UInt32.ofNat n, rest)
  | none => some (0, s)

/-- Four bytes and a port. -/
def readV4 : Read SocketAddress := fun s => do
  let (bytes, s) ← readDotted s
  let (port, s) ← readPort s
  return (⟨.v4 bytes, port, 0⟩, s)

/-- Eight groups and a scope in brackets, and a port. -/
def readV6 : Read SocketAddress := fun s => do
  let (ip, s) ← IpAddress.readV6 (← readChar '[' s)
  let (scope, s) ← readScope s
  let (port, s) ← readPort (← readChar ']' s)
  return (⟨ip, port, scope⟩, s)

/-- The socket address that a text spells. -/
def ofText? (s : String) : Option SocketAddress :=
  whole? (fun cs => readV4 cs <|> readV6 cs) s

end SocketAddress

end Cadence
