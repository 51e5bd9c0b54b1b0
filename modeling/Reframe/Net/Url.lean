import Reframe.Net.Host
import Reframe.Text.Quoted

/-
  This file defines addresses of resources on web services,
  as far as requests need them: the service that is meant,
  and the path and query that are asked of it.

  Key definitions include:
    * `Url`
    * `Url.formEncoded`
    * `Url.percentEncoded`
    * `Url.hostAndPort?`
    * `Url.parse?`
    * `Url.target`
-/

namespace Reframe

------------------------------------------------------------
-- Addresses Of Resources
------------------------------------------------------------

/-
  The address of a resource: whether the service is asked in
  secret, its host and port, the segments of the path, and a
  query, if there is one.
-/
structure Url where
  secure : Bool
  host : Host
  port : Nat
  segments : List String
  query : Option String
deriving DecidableEq, Repr

namespace Url

------------------------------------------------------------
-- Escapes
------------------------------------------------------------

/- A digit of base sixteen, letters in upper case. -/
def upperHexDigits
    (n : Nat) : List Char :=
  (Nat.toDigits 16 n).map Char.toUpper

/- A byte as a percent sign and two digits. -/
def escapedByte
    (b : UInt8) : List Char :=
  '%' :: upperHexDigits (b.toNat / 16) ++
    upperHexDigits (b.toNat % 16)

/- The character of a byte. -/
def charOf
    (b : UInt8) : Char :=
  Char.ofNat b.toNat

/- A letter or digit of ASCII. -/
def IsPlain
    (c : Char) : Prop :=
  c.isAlphanum = true

instance
    (c : Char) :
    Decidable (IsPlain c) := by
  unfold IsPlain
  infer_instance

/- The form of a byte in the fields of a query. -/
def formByte
    (b : UInt8) : List Char :=
  let c := charOf b
  if b = 0x20 then ['+']
  else if b < 0x80 ∧ (IsPlain c ∨ c ∈ ['*', '-', '.', '_'])
  then [c]
  else escapedByte b

/- The form of a text in the fields of a query. -/
def formEncoded
    (s : String) : String :=
  String.ofList ((Bytes.ofText s).flatMap formByte)

/- The form of a name and a value in a query. -/
def formPair
    (p : String × String) : String :=
  formEncoded p.1 ++ "=" ++ formEncoded p.2

/- Characters that a path does not hold as they are. -/
def pathSpecials : List Char :=
  [' ', '"', '#', '<', '>', '?', '\x60', '\x7b', '\x7d']

/- Characters that a query does not hold as they are. -/
def querySpecials : List Char :=
  [' ', '"', '#', '<', '>', '\'']

/- Escape controls, special and wide characters. -/
def percentEncoded
    (specials : List Char)
    (cs : List Char) : String :=
  String.ofList
    ((Bytes.ofText (String.ofList cs)).flatMap (fun b =>
      if 0x20 ≤ b ∧ b < 0x7F ∧ charOf b ∉ specials then
        [charOf b]
      else escapedByte b))

------------------------------------------------------------
-- Paths
------------------------------------------------------------

/- The segment stands for the segment it lies in. -/
def IsSingleDot
    (s : String) : Prop :=
  s.toLower ∈ [".", "%2e"]

instance
    (s : String) :
    Decidable (IsSingleDot s) := by
  unfold IsSingleDot
  infer_instance

/- The segment stands for the segment above. -/
def IsDoubleDot
    (s : String) : Prop :=
  s.toLower ∈ ["..", ".%2e", "%2e.", "%2e%2e"]

instance
    (s : String) :
    Decidable (IsDoubleDot s) := by
  unfold IsDoubleDot
  infer_instance

/-
  Follow segments from a path, given last segment first.
  Dots are resolved; at the end they leave an empty segment.
-/
def resolve
    (above : List String) : List String → List String
| [] => above.reverse
| [s] =>
    if IsDoubleDot s then ("" :: above.tail).reverse
    else if IsSingleDot s then ("" :: above).reverse
    else (s :: above).reverse
| s :: t :: rest =>
    if IsDoubleDot s then resolve above.tail (t :: rest)
    else if IsSingleDot s then resolve above (t :: rest)
    else resolve (s :: above) (t :: rest)

/- A character parts the segments of a path. -/
def IsSlash
    (c : Char) : Prop :=
  c = '/' ∨ c = '\\'

instance
    (c : Char) :
    Decidable (IsSlash c) := by
  unfold IsSlash
  infer_instance

/- The segments of the path behind an authority. -/
def segmentsOf
    (cs : List Char) : List String :=
  let unified := cs.map (fun c => if IsSlash c then '/' else c)
  match unified with
  | [] => [""]
  | _ :: rest =>
      resolve []
        ((IpAddress.splitAt '/' rest).map
          (percentEncoded pathSpecials))

------------------------------------------------------------
-- Reading
------------------------------------------------------------

/- A control or a space. -/
def IsControlOrSpace
    (c : Char) : Prop :=
  c.toNat ≤ 0x20

instance
    (c : Char) :
    Decidable (IsControlOrSpace c) := by
  unfold IsControlOrSpace
  infer_instance

/-
  Drop controls and spaces on both sides, and tabs and line
  ends throughout.
-/
def cleaned
    (cs : List Char) : List Char :=
  let drop := List.dropWhile
    (fun c => IsControlOrSpace c)
  ((drop (drop cs).reverse).reverse).filter
    (fun c => c ∉ ['\t', '\n', '\r'])

/- Characters up to one of a kind, and from there on. -/
def upTo
    (p : Char → Bool)
    (cs : List Char) : List Char × List Char :=
  cs.span (fun c => !p c)

/- What is behind a scheme, which has any case of letters. -/
def behindScheme?
    (scheme : String)
    (cs : List Char) : Option (List Char) :=
  let n := scheme.toList.length
  if (cs.take n).map Char.toLower = scheme.toList then
    some
      ((cs.drop n).dropWhile (fun c => IsSlash c))
  else none

/- The port that is asked if none is given. -/
def standardPort
    (secure : Bool) : Nat :=
  if secure then 443 else 80

/- Drop the name of a user, which ends in the last `@`. -/
def behindUser
    (cs : List Char) : List Char :=
  (cs.reverse.takeWhile (fun c => c ≠ '@')).reverse

/- Read a port behind a colon, which may be left out. -/
def port?
    (standard : Nat) : List Char → Option Nat
| [] => some standard
| ':' :: [] => some standard
| ':' :: cs => SocketAddress.number? 65535 cs
| _ => none

/- Read host and port.  A long address stands in brackets. -/
def hostAndPort?
    (standard : Nat) :
    List Char → Option (Host × Nat)
| '[' :: cs =>
    match upTo (fun c => c = ']') cs with
    | (inside, _ :: behind) =>
        match IpAddress.parseV6? inside,
          port? standard behind with
        | some a, some port => some (.address a, port)
        | _, _ => none
    | _ => none
| cs =>
    let (front, behind) := upTo (fun c => c = ':') cs
    match Host.ofText? front, port? standard behind with
    | some host, some port => some (host, port)
    | _, _ => none

/- Read what is behind the scheme. -/
def ofRest?
    (secure : Bool)
    (cs : List Char) : Option Url :=
  let cs := (upTo (fun c => c = '#') cs).1
  let (front, behind) := upTo (fun c => c = '?') cs
  let (authority, path) := upTo (fun c => IsSlash c) front
  match hostAndPort? (standardPort secure)
    (behindUser authority) with
  | none => none
  | some (host, port) =>
      some
        { secure := secure
          host := host
          port := port
          segments := segmentsOf path
          query :=
            match behind with
            | [] => none
            | _ :: q =>
                some (percentEncoded querySpecials q) }

/- Read the address of a resource on a web service. -/
def parse?
    (s : String) : Option Url :=
  let cs := cleaned s.toList
  match behindScheme? "http:" cs with
  | some rest => ofRest? false rest
  | none =>
      (behindScheme? "https:" cs).bind (ofRest? true)

------------------------------------------------------------
-- Request Targets
------------------------------------------------------------

/- The query with further fields at its end. -/
def extendedQuery
    (u : Url)
    (fields : List (String × String)) : Option String :=
  let added := "&".intercalate (fields.map formPair)
  match u.query, fields with
  | q, [] => q
  | none, _ => some added
  | some "", _ => some added
  | some q, _ => some (q ++ "&" ++ added)

/- What a request asks the service for. -/
def target
    (u : Url)
    (fields : List (String × String)) : String :=
  let path := "/" ++ "/".intercalate u.segments
  match u.extendedQuery fields with
  | none => path
  | some q => path ++ "?" ++ q

end Url

end Reframe
