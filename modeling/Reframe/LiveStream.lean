import Reframe.ByteSource
import Reframe.Text.Quoted

/-
  This file defines open streams: a source of bytes, a label
  that says where they come from, and whether the stream was
  closed.  The connection behind it is left out.

  Key definitions include:
    * `LiveStream`
    * `LiveStream.read`
    * `LiveStream.close`
    * `LiveStream.describe`
-/

namespace Reframe

/- What a stream reads from. -/
inductive StreamKind where
/- The body of an answer of a service. -/
| http
/- Anything else. -/
| reader
deriving DecidableEq, Repr

/- A stream.  Once it is closed it has no source. -/
structure LiveStream where
  label : String
  body : Option (StreamKind × ByteSource)
deriving DecidableEq, Repr

namespace LiveStream

/- A stream over a source. -/
def ofSource
    (kind : StreamKind)
    (label : String)
    (source : ByteSource) : LiveStream where
  label := label
  body := some (kind, source)

/- The stream was closed. -/
def IsClosed
    (s : LiveStream) : Prop :=
  s.body = none

instance
    (s : LiveStream) :
    Decidable s.IsClosed := by
  unfold IsClosed
  infer_instance

/- What is left of the source. -/
def source
    (s : LiveStream) : ByteSource :=
  match s.body with
  | none => []
  | some (_, source) => source

/-
  Read at most a number of bytes.  A closed stream is at its
  end.
-/
def read
    (s : LiveStream)
    (capacity : Nat) : Arrival × LiveStream :=
  match s.body with
  | none => (.ok [], s)
  | some (kind, source) =>
      match ByteSource.read capacity source with
      | (arrival, rest) =>
          (arrival, { s with body := some (kind, rest) })

/- All bytes that are left to read. -/
def content
    (s : LiveStream) : Bytes :=
  s.source.flatMap (fun e =>
    match e with
    | .data bs => bs
    | _ => [])

/- Let go of the source. -/
def close
    (s : LiveStream) : LiveStream :=
  { s with body := none }

/- The diagnostic form of a stream. -/
def describe
    (s : LiveStream) : String :=
  let kind :=
    match s.body with
    | none => "closed"
    | some (.http, _) => "http"
    | some (.reader, _) => "reader"
  s!"LiveStream \x7b type: {Text.quoted kind}, " ++
    s!"source: {Text.quoted s.label} \x7d"

end LiveStream

end Reframe
