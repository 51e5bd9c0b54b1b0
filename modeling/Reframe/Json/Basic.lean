import Reframe.Decimal.Shortest
import Reframe.Text.Quoted

/-
  This file defines JSON values and their compact form.

  Key definitions include:
    * `JsonNumber`
    * `Json`
    * `Json.compact`
    * `Json.insert`
    * `Json.sorted`
-/

namespace Reframe

------------------------------------------------------------
-- Values
------------------------------------------------------------

/-
  A number: a whole one, or a floating point number, given
  by its bits.
-/
inductive JsonNumber where
| whole (n : Int)
| double (bits : UInt64)
deriving DecidableEq, Repr

/- A value.  The fields of an object have an order. -/
inductive Json where
| null
| bool (b : Bool)
| number (n : JsonNumber)
| text (s : String)
| array (items : List Json)
| object (fields : List (String × Json))
deriving Repr

namespace Json

/- The value of a natural number. -/
def ofNat
    (n : Nat) : Json :=
  .number (.whole n)

------------------------------------------------------------
-- Compact Form
------------------------------------------------------------

/- Two digits of base sixteen. -/
def twoHexDigits
    (n : Nat) : List Char :=
  Text.hexDigits (n / 16) ++ Text.hexDigits (n % 16)

/- The form of a character within quotes. -/
def escaped
    (c : Char) : List Char :=
  if c = '"' then ['\\', '"']
  else if c = '\\' then ['\\', '\\']
  else if c = '\x08' then ['\\', 'b']
  else if c = '\t' then ['\\', 't']
  else if c = '\n' then ['\\', 'n']
  else if c = '\x0c' then ['\\', 'f']
  else if c = '\r' then ['\\', 'r']
  else if c.toNat < 0x20 then
    ['\\', 'u', '0', '0'] ++ twoHexDigits c.toNat
  else [c]

/- The form of a text. -/
def quotedText
    (s : String) : String :=
  String.ofList
    (['"'] ++ s.toList.flatMap escaped ++ ['"'])

/- The form of a number. -/
def numberText : JsonNumber → String
| .whole n => toString n
| .double bits => Decimal.text (Binary64.ofBits bits)

mutual

/- The form of a value without white space. -/
def compact : Json → String
| .null => "null"
| .bool true => "true"
| .bool false => "false"
| .number n => numberText n
| .text s => quotedText s
| .array items => "[" ++ compactItems items ++ "]"
| .object fields =>
    "\x7b" ++ compactFields fields ++ "\x7d"

/- The form of the items of an array. -/
def compactItems : List Json → String
| [] => ""
| [v] => compact v
| v :: w :: vs => compact v ++ "," ++ compactItems (w :: vs)

/- The form of the fields of an object. -/
def compactFields : List (String × Json) → String
| [] => ""
| [(k, v)] => quotedText k ++ ":" ++ compact v
| (k, v) :: f :: fs =>
    quotedText k ++ ":" ++ compact v ++ "," ++
      compactFields (f :: fs)

end

------------------------------------------------------------
-- Sorted Fields
------------------------------------------------------------

/-
  Put a field among fields that are sorted by name.  It
  replaces a field of the same name.
-/
def insert
    (key : String)
    (value : Json) :
    List (String × Json) → List (String × Json)
| [] => [(key, value)]
| (k, v) :: rest =>
    if key < k then (key, value) :: (k, v) :: rest
    else if key = k then (key, value) :: rest
    else (k, v) :: insert key value rest

/- Sort fields by name.  The last of one name counts. -/
def sortFields
    (fields : List (String × Json)) :
    List (String × Json) :=
  fields.foldl (fun fs f => insert f.1 f.2 fs) []

mutual

/- A value with the fields of every object sorted. -/
def sorted : Json → Json
| .array items => .array (sortedItems items)
| .object fields =>
    .object (sortFields (sortedFields fields))
| v => v

/- Values with the fields of every object sorted. -/
def sortedItems : List Json → List Json
| [] => []
| v :: vs => sorted v :: sortedItems vs

/- Fields with the fields of every object in them sorted. -/
def sortedFields :
    List (String × Json) → List (String × Json)
| [] => []
| (k, v) :: fs => (k, sorted v) :: sortedFields fs

end

/- The value of a field. -/
def field?
    (key : String)
    (fields : List (String × Json)) : Option Json :=
  (fields.find? (fun f => f.1 = key)).map Prod.snd

end Json

end Reframe
