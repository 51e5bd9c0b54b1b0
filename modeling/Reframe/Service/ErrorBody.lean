import Reframe.Json.Reader
import Reframe.Text.Blank

/-
  This file defines what is quoted from the body of an
  answer that reports a failure.

  A body that is a JSON report of the service, with a code
  and perhaps details, is quoted in short form.  Of any
  other body the beginning is quoted.

  Key definitions include:
    * `ServiceReport`
    * `ServiceReport.ofBody?`
    * `ServiceReport.reason`
-/

namespace Reframe

/- The report of a service on a failure. -/
structure ServiceReport where
  code : String
  details : Option String := none
deriving DecidableEq, Repr

namespace ServiceReport

/- A text, or nothing. -/
def details? : Json → Option (Option String)
| .null => some none
| .text s => some (some s)
| _ => none

/- The fields of a name. -/
def allOf
    (name : String)
    (fields : List (String × Json)) : List Json :=
  (fields.filter (fun f => f.1 = name)).map Prod.snd

/- The report with given fields.  None may come twice. -/
def ofFields?
    (fields : List (String × Json)) : Option ServiceReport :=
  match allOf "error" fields, allOf "details" fields with
  | [.text code], [] => some ⟨code, none⟩
  | [.text code], [v] =>
      (details? v).map (fun d => ⟨code, d⟩)
  | _, _ => none

/- The report that a JSON value is. -/
def ofJson? : Json → Option ServiceReport
| .object fields => ofFields? fields
| .array [.text code] => some ⟨code, none⟩
| .array [.text code, v] =>
    (details? v).map (fun d => ⟨code, d⟩)
| _ => none

/- The report that a body is. -/
def ofBody?
    (body : String) : Option ServiceReport :=
  (Json.parse? body).bind ofJson?

/- The short form of a report. -/
def shortForm
    (r : ServiceReport) : String :=
  match r.details with
  | none => r.code
  | some d => if d = "" then r.code else r.code ++ ": " ++ d

/- The most characters that are quoted of other bodies. -/
def quoteLimit : Nat :=
  200

/- What is quoted of a body. -/
def reason
    (body : String) : String :=
  match ofBody? body with
  | some r => r.shortForm
  | none =>
      let cs := Text.trim body.toList
      if cs = [] then "empty response body"
      else String.ofList (cs.take quoteLimit)

end ServiceReport

end Reframe
