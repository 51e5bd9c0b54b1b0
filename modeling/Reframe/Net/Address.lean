import Reframe.Text.Numeral

/-
  This file defines Internet addresses and their written
  form.

  Key definitions include:
    * `IpAddress`
    * `IpAddress.text`
    * `IpAddress.parse?`
    * `SocketAddress`
    * `SocketAddress.text`
    * `SocketAddress.parse?`
-/

namespace Reframe

------------------------------------------------------------
-- Addresses
------------------------------------------------------------

/-
  The address of a host: four bytes, or eight groups of
  sixteen bits.
-/
inductive IpAddress where
| v4 (a b c d : Nat)
| v6 (groups : List Nat)
deriving DecidableEq, Repr

/-
  The address of a socket: a host, a port, and for a long
  address the zone that it is valid in, zero being none.
-/
structure SocketAddress where
  host : IpAddress
  port : Nat
  zone : Nat := 0
deriving DecidableEq, Repr

namespace IpAddress

/- Every address of the host. -/
def anyV4 : IpAddress :=
  .v4 0 0 0 0

/- Every long address of the host. -/
def anyV6 : IpAddress :=
  .v6 (List.replicate 8 0)

/- The host itself. -/
def loopback : IpAddress :=
  .v4 127 0 0 1

/- All hosts of the network. -/
def broadcast : IpAddress :=
  .v4 255 255 255 255

------------------------------------------------------------
-- Kinds Of Addresses
------------------------------------------------------------

/- The short address that a long one stands for, if any. -/
def unmapped : IpAddress → IpAddress
| .v6 [0, 0, 0, 0, 0, 0xFFFF, x, y] =>
    .v4 (x / 256) (x % 256) (y / 256) (y % 256)
| a => a

/- An address of four bytes. -/
def IsShort : IpAddress → Prop
| .v4 _ _ _ _ => True
| .v6 _ => False

instance
    (a : IpAddress) :
    Decidable a.IsShort := by
  cases a <;> unfold IsShort <;> infer_instance

/- An address of the host itself. -/
def IsLoopback : IpAddress → Prop
| .v4 a _ _ _ => a = 127
| .v6 gs => gs = [0, 0, 0, 0, 0, 0, 0, 1]

instance
    (a : IpAddress) :
    Decidable a.IsLoopback := by
  cases a <;> unfold IsLoopback <;> infer_instance

/- The address of a group of hosts. -/
def IsMulticast : IpAddress → Prop
| .v4 a _ _ _ => 224 ≤ a ∧ a ≤ 239
| .v6 gs => 0xFF00 ≤ gs.headD 0

instance
    (a : IpAddress) :
    Decidable a.IsMulticast := by
  cases a <;> unfold IsMulticast <;> infer_instance

/-
  An address that is valid on one link or one host only, so
  that it means nothing without a zone.
-/
def NeedsZone : IpAddress → Prop
| .v4 _ _ _ _ => False
| .v6 gs =>
    let g := gs.headD 0
    (0xFE80 ≤ g ∧ g ≤ 0xFEBF) ∨
      (0xFF00 ≤ g ∧ (g % 16 = 1 ∨ g % 16 = 2))

instance
    (a : IpAddress) :
    Decidable a.NeedsZone := by
  cases a <;> unfold NeedsZone <;> infer_instance

------------------------------------------------------------
-- Written Form
------------------------------------------------------------

/- A number in base sixteen. -/
def hex
    (n : Nat) : String :=
  String.ofList (Nat.toDigits 16 n)

/- Groups with colons in between. -/
def colons
    (gs : List Nat) : String :=
  ":".intercalate (gs.map hex)

/- The number of zeros that groups begin with. -/
def zeroRun
    (gs : List Nat) : Nat :=
  (gs.takeWhile (fun g => g = 0)).length

/-
  The first of the longest runs of zeros: where it starts
  and how long it is.
-/
def longestZeroRun
    (i : Nat) : List Nat → Nat × Nat
| [] => (i, 0)
| g :: gs =>
    let here := zeroRun (g :: gs)
    let later := longestZeroRun (i + 1) gs
    if later.2 ≤ here then (i, here) else later

/- Four bytes with dots in between. -/
def dotted
    (a b c d : Nat) : String :=
  s!"{a}.{b}.{c}.{d}"

/- The written form of eight groups. -/
def textV6
    (gs : List Nat) : String :=
  match gs with
  | [0, 0, 0, 0, 0, 0xFFFF, x, y] =>
      "::ffff:" ++
        dotted (x / 256) (x % 256) (y / 256) (y % 256)
  | _ =>
      let r := longestZeroRun 0 gs
      if 2 ≤ r.2 then
        colons (gs.take r.1) ++ "::" ++
          colons (gs.drop (r.1 + r.2))
      else colons gs

/-
  The written form of an address.  The first of the longest
  runs of at least two zero groups is left out.
-/
def text : IpAddress → String
| .v4 a b c d => dotted a b c d
| .v6 gs => textV6 gs

------------------------------------------------------------
-- Reading
------------------------------------------------------------

/- Read a byte: up to three digits, no zero in front. -/
def octet?
    (cs : List Char) : Option Nat :=
  if Numeral.IsDigits cs ∧ cs.length ≤ 3 ∧
      Numeral.value cs ≤ 255 ∧
      (cs.length = 1 ∨ cs.head? ≠ some '0') then
    some (Numeral.value cs)
  else none

/- Split characters at each separator. -/
def splitAt
    (sep : Char) : List Char → List (List Char)
| [] => [[]]
| c :: cs =>
    if c = sep then [] :: splitAt sep cs
    else
      match splitAt sep cs with
      | [] => [[c]]
      | p :: ps => (c :: p) :: ps

/- Read four bytes with dots in between. -/
def parseV4?
    (cs : List Char) : Option IpAddress :=
  match (splitAt '.' cs).mapM octet? with
  | some [a, b, c, d] => some (.v4 a b c d)
  | _ => none

/- A character is a digit of base sixteen. -/
def IsHexDigit
    (c : Char) : Prop :=
  Numeral.IsDigit c ∨ ('a' ≤ c ∧ c ≤ 'f') ∨
    ('A' ≤ c ∧ c ≤ 'F')

instance
    (c : Char) :
    Decidable (IsHexDigit c) := by
  unfold IsHexDigit
  infer_instance

/- The value of a digit of base sixteen. -/
def hexDigit
    (c : Char) : Nat :=
  if 'a' ≤ c then c.toNat - 'a'.toNat + 10
  else if 'A' ≤ c then c.toNat - 'A'.toNat + 10
  else Numeral.digit c

/- Characters are a group: one to four digits. -/
def IsGroup
    (cs : List Char) : Prop :=
  (cs ≠ [] ∧ cs.length ≤ 4) ∧ ∀ c ∈ cs, IsHexDigit c

instance
    (cs : List Char) :
    Decidable (IsGroup cs) :=
  @instDecidableAnd _ _ _ (List.decidableBAll IsHexDigit cs)

/- Read a group of digits of base sixteen. -/
def group?
    (cs : List Char) : Option Nat :=
  if IsGroup cs then
    some (cs.foldl (fun n c => 16 * n + hexDigit c) 0)
  else none

/-
  Read groups with colons in between, none for an empty
  text.  The last may be four bytes with dots, which count
  as two groups.
-/
def groups?
    (withDots : Bool)
    (cs : List Char) : Option (List Nat) :=
  if cs = [] then some []
  else
    let parts := splitAt ':' cs
    match parts.getLast? with
    | none => none
    | some last =>
        match parts.mapM group? with
        | some gs => some gs
        | none =>
            if withDots then
              match parts.dropLast.mapM group?,
                parseV4? last with
              | some gs, some (.v4 a b c d) =>
                  some (gs ++ [256 * a + b, 256 * c + d])
              | _, _ => none
            else none

/- Split at the first of two neighbouring colons. -/
def splitGap
    : List Char → Option (List Char × List Char)
| ':' :: ':' :: cs => some ([], cs)
| c :: cs =>
    (splitGap cs).map (fun p => (c :: p.1, p.2))
| [] => none

/- Read eight groups, of which zeros may be left out. -/
def parseV6?
    (cs : List Char) : Option IpAddress :=
  match splitGap cs with
  | none =>
      match groups? true cs with
      | some gs =>
          if gs.length = 8 then some (.v6 gs) else none
      | none => none
  | some (front, back) =>
      match groups? false front, groups? true back with
      | some xs, some ys =>
          let n := xs.length + ys.length
          if n ≤ 7 then
            some (.v6 (xs ++ List.replicate (8 - n) 0 ++ ys))
          else none
      | _, _ => none

/- Read an address. -/
def parse?
    (cs : List Char) : Option IpAddress :=
  match parseV4? cs with
  | some a => some a
  | none => parseV6? cs

end IpAddress

namespace SocketAddress

/- The written form of the address of a socket. -/
def text
    (a : SocketAddress) : String :=
  match a.host with
  | .v4 _ _ _ _ => s!"{a.host.text}:{a.port}"
  | .v6 _ =>
      if a.zone = 0 then s!"[{a.host.text}]:{a.port}"
      else s!"[{a.host.text}%{a.zone}]:{a.port}"

/- Read digits up to a limit, zeros in front allowed. -/
def number?
    (limit : Nat)
    (cs : List Char) : Option Nat :=
  if Numeral.IsDigits cs ∧ Numeral.value cs ≤ limit then
    some (Numeral.value cs)
  else none

/- Split at the last occurrence of a character. -/
def splitLast?
    (sep : Char)
    (cs : List Char) : Option (List Char × List Char) :=
  let back := cs.reverse
  let tail := back.takeWhile (fun c => c ≠ sep)
  match back.dropWhile (fun c => c ≠ sep) with
  | [] => none
  | _ :: front => some (front.reverse, tail.reverse)

/- Read the part in brackets: a long address and a zone. -/
def bracketed?
    (cs : List Char) : Option (IpAddress × Nat) :=
  match splitLast? '%' cs with
  | none => (IpAddress.parseV6? cs).map (fun a => (a, 0))
  | some (host, zone) =>
      match IpAddress.parseV6? host,
        number? 4294967295 zone with
      | some a, some z => some (a, z)
      | _, _ => none

/- Read the address of a socket. -/
def parse?
    (cs : List Char) : Option SocketAddress :=
  match splitLast? ':' cs with
  | none => none
  | some (host, portText) =>
      match number? 65535 portText with
      | none => none
      | some port =>
          match host with
          | '[' :: rest =>
              if rest.getLast? = some ']' then
                (bracketed? rest.dropLast).map
                  (fun p => ⟨p.1, port, p.2⟩)
              else none
          | _ =>
              (IpAddress.parseV4? host).map
                (fun a => ⟨a, port, 0⟩)

end SocketAddress

end Reframe
