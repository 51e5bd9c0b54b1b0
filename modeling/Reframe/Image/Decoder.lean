import Reframe.ClientError
import Reframe.Image.Basic

/-
  This file defines decoders, which turn frames into
  pictures.  A decoder may hold frames back, so that one
  frame gives no picture or several.

  Key definitions include:
    * `Decoder`
    * `Decoder.decode`
    * `Decoder.identity`
    * `Decoder.jpeg`
    * `Decoder.streaming`
-/

namespace Reframe

abbrev DecodeResult :=
  Except ClientError (List Image)

/-
  A decoder: its name, what it does with a frame, and the
  state it is in.
-/
structure Decoder (σ : Type) where
  name : String
  step : σ → Bytes → DecodeResult × σ
  state : σ

namespace Decoder

variable {σ : Type}

def decode
    (d : Decoder σ)
    (data : Bytes) : DecodeResult × Decoder σ :=
  match d.step d.state data with
  | (result, state) => (result, { d with state := state })

def describe
    (d : Decoder σ) : String :=
  "Decoder(" ++ Text.quoted d.name ++ ")"

def identity : Decoder Unit where
  name := "identity"
  step := fun s data => (.ok [.compressed data], s)
  state := ()

/-
  Reads every frame as a picture of its own, with a given
  reader of pictures.
-/
def jpeg
    (read : Bytes → Except ClientError Image) :
    Decoder Unit where
  name := "jpeg"
  step := fun s data => ((read data).map ([·]), s)
  state := ()

/- A decoder that keeps a state from frame to frame. -/
def streaming
    (step : σ → Bytes → DecodeResult × σ)
    (state : σ) : Decoder σ where
  name := "streaming"
  step := step
  state := state

/- A reader of pictures that knows no picture format. -/
def noPicture
    (_ : Bytes) : Except ClientError Image :=
  .error (.decode "not a picture")

end Decoder

end Reframe
