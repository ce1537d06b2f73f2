import Irrigation.ExitStatus

/-!
# Device errors

* `DeviceError`: why an operation on the bus failed.
* `DeviceError.status`: the exit status for it. None of them is 0 or 1, which answer a query.
-/

namespace Irrigation

/-- Why an operation on the bus failed. -/
inductive DeviceError
  | cannotOpen (device reason : String)
  | line (reason : String)
  | noResponse (target : String)
  | badResponse (target detail : String)
  deriving Repr, DecidableEq

namespace DeviceError

/-- The text of the error. -/
def message : DeviceError → String
  | cannotOpen device reason => "cannot open device " ++ device ++ ": " ++ reason
  | line reason => "I/O error on serial line: " ++ reason
  | noResponse target => "no response from " ++ target
  | badResponse target detail => "unexpected response from " ++ target ++ ": " ++ detail

/-- The exit status for the error. -/
def status : DeviceError → ExitStatus
  | cannotOpen .. => .noInput
  | line _ => .ioError
  | noResponse _ => .unavailable
  | badResponse .. => .protocol

end DeviceError

end Irrigation
