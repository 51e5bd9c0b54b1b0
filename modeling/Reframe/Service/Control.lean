import Reframe.LiveStream
import Reframe.Net.Network
import Reframe.Service.ErrorBody
import Reframe.Service.StreamRequest
import Reframe.Text.Utf8

/-
  This file defines what can be asked of a service: to start
  a stream of datagrams, to send a new reference frame, and
  to open a live stream.

  Key definitions include:
    * `ControlClient`
    * `ControlClient.startStream`
    * `ControlClient.requestReferenceFrame`
    * `ControlClient.openLive`
    * `ServiceAddress`
-/

namespace Reframe

/-
  A client of a service: the address of the service without
  slashes at its end, and how long to wait for an answer.
-/
structure ControlClient where
  baseUrl : String
  timeout : Duration
deriving DecidableEq, Repr

namespace ControlClient

/- A client of the service at an address. -/
def ofUrl
    (url : String)
    (timeout : Duration) : ControlClient where
  baseUrl :=
    String.ofList
      (url.toList.reverse.dropWhile
        (fun c => c = '/')).reverse
  timeout := timeout

/- The diagnostic form of a client. -/
def describe
    (c : ControlClient) : String :=
  "ControlClient \x7b " ++
    s!"base_url: {Text.quoted c.baseUrl}, " ++
    s!"timeout: {c.timeout.text} \x7d"

/- The name of a request for a reference frame. -/
def referenceFrame : String :=
  "idr"

/- The failure that an answer reports. -/
def statusError
    (url : String)
    (a : Answer) : TransportError :=
  .status url a.status
    (ServiceReport.reason (Utf8.lossy a.body))

/- Make a request.  A status of 400 or more is a failure. -/
def call
    (network : Network)
    (q : HttpRequest) :
    Except TransportError Answer × Network :=
  match network.exchange q with
  | (.error message, network) =>
      (.error (.request q.url message), network)
  | (.ok a, network) =>
      if 400 ≤ a.status then
        (.error (statusError q.url a), network)
      else (.ok a, network)

/- Ask for a stream of datagrams. -/
def startStream
    (c : ControlClient)
    (network : Network)
    (r : StreamRequest) :
    Except TransportError Unit × Network :=
  match call network
    { method := "GET"
      url := c.baseUrl ++ "/stream/udp/" ++ r.device
      timeout := c.timeout
      query := r.fields } with
  | (.error e, network) => (.error e, network)
  | (.ok _, network) => (.ok (), network)

/-
  Ask for a new reference frame, and wait for the answer no
  longer than a time of its own.
-/
def requestReferenceFrame
    (c : ControlClient)
    (network : Network)
    (device : String)
    (timeout : Duration := c.timeout) :
    Except TransportError Unit × Network :=
  match call network
    { method := "POST"
      url := c.baseUrl ++ "/stream/" ++ device ++ "/feedback"
      timeout := timeout
      query := [("type", referenceFrame)] } with
  | (.error e, network) => (.error e, network)
  | (.ok _, network) => (.ok (), network)

/- The fields with a codec among them. -/
def liveFields
    (params : List (String × String)) :
    List (String × String) :=
  if ∃ p ∈ params, p.1 = "codec" then params
  else ("codec", VideoCodec.mjpeg.name) :: params

/-
  Open a live stream.  Any answer but one of status 200 is a
  failure.
-/
def openLive
    (c : ControlClient)
    (network : Network)
    (device : String)
    (params : List (String × String)) :
    Except TransportError LiveStream × Network :=
  let url := c.baseUrl ++ "/stream/live/" ++ device
  match call network
    { method := "GET"
      url := url
      timeout := c.timeout
      query := liveFields params
      accept := "multipart/x-mixed-replace" } with
  | (.error e, network) => (.error e, network)
  | (.ok a, network) =>
      if a.status = 200 then
        (.ok (.ofSource .http url [.data a.body]), network)
      else (.error (statusError url a), network)

end ControlClient

/-
  Where a service is to be found, the device to stream from,
  and how long to wait for an answer.
-/
structure ServiceAddress where
  baseUrl : String := "http://127.0.0.1:8080"
  device : String := "video0"
  timeout : Duration := .ofSeconds 5
deriving DecidableEq, Repr

def ServiceAddress.client
    (s : ServiceAddress) : ControlClient :=
  .ofUrl s.baseUrl s.timeout

end Reframe
