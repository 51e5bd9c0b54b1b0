import Reframe.Duration
import Reframe.FrameError
import Reframe.Net.Error

/-
  This file defines what can go wrong in the engines that
  receive and pull streams.
-/

namespace Reframe

/- Why an engine failed. -/
inductive ClientError where
| connection (source : TransportError)
| frame (source : FrameError)
| decode (reason : String)
/- No frame arrived in time. -/
| timeout (limit : Duration)
| closed
/- A value could not be written or read as JSON. -/
| json (reason : String)
deriving DecidableEq, Repr

namespace ClientError

def message : ClientError → String
| .connection source => "connection error: " ++ source.message
| .frame source => "frame error: " ++ source.message
| .decode reason => "decode failed: " ++ reason
| .timeout limit => "timed out after " ++ limit.text
| .closed => "engine closed"
| .json reason => "json error: " ++ reason

end ClientError

end Reframe
