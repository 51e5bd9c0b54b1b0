import Reframe.Feedback.Dispatcher
import Reframe.Receiver.Basic
import Reframe.Service.Control

/-
  This file defines how receivers are opened with the help
  of a service.

  Key definitions include:
    * `ReceiverConfig`
    * `ServiceFeedback`
    * `Receiver.listen`
    * `Receiver.openAt`
-/

namespace Reframe

------------------------------------------------------------
-- Configuration
------------------------------------------------------------

/-
  What a receiver is opened with: the service, where to bind
  and where the service is to send, what is streamed and for
  how long, and how patient the parts of the receiver are.
-/
structure ReceiverConfig where
  service : ServiceAddress := {}
  bindAddress : SocketAddress := ⟨.anyV4, 5000, 0⟩
  targetHost : Option IpAddress := none
  codec : VideoCodec := .standard
  width : Nat := 1280
  height : Nat := 720
  fps : Nat := 30
  bitrate : Option Nat := none
  gop : Option Nat := none
  duration : Duration := .ofSeconds 999999
  receiveTimeout : Duration := .ofSeconds 1
  cooldown : Duration := FeedbackLimiter.defaultCooldown
  feedbackTimeout : Duration := .ofSeconds 1
  closeTimeout : Duration := .ofSeconds 2
  reassembler : ReassemblerConfig := {}
deriving DecidableEq, Repr

def ReceiverConfig.loop
    (c : ReceiverConfig) : ReceiveLoop where
  receiveTimeout := c.receiveTimeout
  closeTimeout := c.closeTimeout

def ReceiverConfig.request
    (c : ReceiverConfig)
    (localHost : IpAddress)
    (port : Nat) : StreamRequest where
  device := c.service.device
  target := (c.targetHost.getD localHost).text
  port := port
  codec := c.codec.name
  width := c.width
  height := c.height
  fps := c.fps
  duration := c.duration
  bitrate := c.bitrate
  gop := c.gop

------------------------------------------------------------
-- Requests To The Service
------------------------------------------------------------

/-
  Requests that are delivered to the service one by one: the
  dispatcher that holds them, and the network.
-/
structure ServiceFeedback where
  dispatcher : Dispatcher := {}
  network : Network

namespace ServiceFeedback

/- Make a request and wait until it was delivered or not. -/
def request
    (client : ControlClient)
    (device : String)
    (timeout : Duration)
    (s : ServiceFeedback) : Bool × ServiceFeedback :=
  match s.dispatcher.request with
  | (.closed, d) => (false, { s with dispatcher := d })
  | (.accepted, d) =>
      match client.requestReferenceFrame s.network device
        timeout with
      | (.ok _, network) =>
          (true, ⟨d.receive.finish .delivered, network⟩)
      | (.error _, network) =>
          (true, ⟨d.receive.finish .failed, network⟩)

def sink
    (client : ControlClient)
    (device : String)
    (timeout : Duration)
    (network : Network) : FeedbackSink ServiceFeedback where
  state := { network := network }
  request := request client device timeout
  delivered := fun s => s.dispatcher.delivered
  undelivered := fun s => s.dispatcher.failed

end ServiceFeedback

------------------------------------------------------------
-- Opening Receivers
------------------------------------------------------------

namespace Receiver

variable {σ φ : Type}

/-
  A receiver that asks nobody for a stream.  Gaps are
  reported to the sink, if one is given.
-/
def listen
    (c : ReceiverConfig)
    (decoder : Decoder σ)
    (sink : Option (FeedbackSink φ)) : Receiver σ φ where
  reassembler := { config := c.reassembler }
  feedback := sink.map (.forCodec c.codec c.cooldown)
  decoder := decoder
  loop := c.loop

/-
  A receiver whose socket is bound and whose stream was
  started.
-/
structure Opened (σ φ : Type) where
  receiver : Receiver σ φ
  address : SocketAddress

/-
  Bind a socket, ask the service to stream to it, and start
  to receive.  Gaps are reported to the service where the
  codec has a use for it.
-/
def openAt
    (c : ReceiverConfig)
    (decoder : Decoder σ)
    (network : Network) :
    Except ClientError (Opened σ ServiceFeedback) × Network :=
  match network.bind c.bindAddress with
  | .error e => (.error (.connection e), network)
  | .ok address =>
      let client := c.service.client
      let request :=
        c.request network.localHost address.port
      match client.startStream network request with
      | (.error e, network) => (.error (.connection e), network)
      | (.ok _, network) =>
          let sink :=
            if c.codec.UsesReferenceFrames then
              some (ServiceFeedback.sink client
                c.service.device c.feedbackTimeout network)
            else none
          (.ok ⟨listen c decoder sink, address⟩, network)

end Receiver

end Reframe
