/-!
# Exit status

How an invocation ends, as a number for the caller.
-/

namespace Irrigation

/-- The number that an invocation ends with. -/
abbrev ExitStatus := Nat

namespace ExitStatus

/-- Success; also the answer that a zone is off. -/
def ok : ExitStatus := 0

/-- The answer that a zone is on. -/
def zoneOn : ExitStatus := 1

/-- The arguments describe no operation. -/
def usage : ExitStatus := 64

/-- The device cannot be opened. -/
def noInput : ExitStatus := 66

/-- Nobody answered. -/
def unavailable : ExitStatus := 69

/-- The serial line failed. -/
def ioError : ExitStatus := 74

/-- The answer is not the expected one. -/
def protocol : ExitStatus := 76

/-- The settings cannot be used. -/
def config : ExitStatus := 78

end ExitStatus

end Irrigation
