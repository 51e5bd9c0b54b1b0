import Reframe.Puller.Basic
import Reframe.Service.Control

/-
  This file defines how pullers are opened with the help of
  a service.

  Key definitions include:
    * `PullConfig`
    * `PullConfig.fields`
    * `Puller.openAt`
    * `Puller.grabOne`
-/

namespace Reframe

/-
  What a puller is opened with: the service, size and rate
  of the pictures, further fields for the service, how much
  to read at once, and the largest frame.
-/
structure PullConfig where
  service : ServiceAddress := {}
  width : Option Nat := none
  height : Option Nat := none
  fps : Option Nat := none
  extra : List (String × String) := []
  chunkSize : Nat := defaultChunkSize
  maxFrameSize : Nat := defaultFrameLimit
deriving DecidableEq, Repr

/- The fields that are sent to the service, in order. -/
def PullConfig.fields
    (c : PullConfig) : List (String × String) :=
  StreamRequest.optionalField "w" c.width ++
    StreamRequest.optionalField "h" c.height ++
    StreamRequest.optionalField "fps" c.fps ++
    c.extra

namespace Puller

variable {σ : Type}

/- Open the live stream of a service and pull from it. -/
def openAt
    (c : PullConfig)
    (decoder : Decoder σ)
    (network : Network) :
    Except ClientError (Puller σ) × Network :=
  match c.service.client.openLive network c.service.device
    c.fields with
  | (.error e, network) => (.error (.connection e), network)
  | (.ok stream, network) =>
      (.ok (ofStream stream c.maxFrameSize c.chunkSize
        decoder), network)

/- Open a stream, take its first frame and close it. -/
def grabOne
    (c : PullConfig)
    (network : Network) :
    Except ClientError ScannedFrame × Network :=
  match openAt c Decoder.identity network with
  | (.error e, network) => (.error e, network)
  | (.ok p, network) =>
      match p.nextFrame.1 with
      | some f => (.ok f, network)
      | none => (.error (.frame .connectionClosed), network)

end Puller

end Reframe
