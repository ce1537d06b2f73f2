import Irrigation.Invocation

/-!
# The program

The outer layer: it gathers the words, the variables and the settings file, lends the line of a
device to the invocation, and prints what the invocation ends with.

A line is used as it is set up. Its speed, and how long a read waits before it delivers nothing,
are settings of the line, so the time to wait of the settings has to be given to it beforehand.

Only the variables tell the home directory here: none is looked up for the account. There is no
generator of completion scripts either, and no diagnosis of settings files.
-/

namespace Irrigation

/-- The text for an error of the system. -/
def systemReason : IO.Error → String
  | .noFileOrDirectory .. => "No such file or directory"
  | .permissionDenied .. => "Permission denied"
  | .inappropriateType .. => "Is a directory"
  | .resourceBusy .. => "Device or resource busy"
  | error => error.toString

/-- The fault for an error of the system. -/
def systemFault (error : IO.Error) : Fault :=
  let kind : FaultKind :=
    match error with
    | .interrupted .. => .interrupted
    | .timeExpired .. => .timedOut
    | .unexpectedEof => .unexpectedEof
    | _ => .other
  ⟨kind, systemReason error⟩

/-! ## The line of a device -/

/-- Reads bytes until none is wanted or the line delivers nothing. -/
def readBytes (handle : IO.FS.Handle) (wanted : Nat) : IO (Except Fault (List UInt8)) := do
  let mut got : List UInt8 := []
  for _ in [0:wanted] do
    if got.length < wanted then
      let more ← handle.read (USize.ofNat (wanted - got.length))
      if more.isEmpty then return .error .endOfStream
      got := got ++ more.toList
  return .ok got

/-- Carries out an exchange over a line. -/
def performOver (handle : IO.FS.Handle) {α : Type} (exchange : Exchange α) :
    IO (Except DeviceError α) := do
  try
    handle.write ⟨exchange.frame.toArray⟩
    handle.flush
  catch error => return .error (.line (systemReason error))
  try
    match ← readBytes handle exchange.replyLength with
    | .ok reply => return exchange.interpret reply
    | .error fault => return .error (exchange.unanswered fault)
  catch error => return .error (exchange.unanswered (systemFault error))

/-- The system as the host of invocations. -/
def systemHost : Host IO where
  openLine device _ := do
    try
      let handle ← IO.FS.Handle.mk device .readWrite
      return .ok (.ofExchanges (performOver handle))
    catch error => return .error (systemReason error)

/-! ## What an invocation starts from -/

/-- The variables of a block in which a null character follows each entry. -/
def variablesOf (block : String) : Environment :=
  .ofEntries ((block.splitOn "\x00").map String.toList)

/-- The variables of the process, or none where the system does not list them. -/
def readVariables : IO Environment := do
  try
    return match String.fromUTF8? (← IO.FS.readBinFile "/proc/self/environ") with
      | some block => variablesOf block
      | none => []
  catch _ => return []

/-- The settings file: in the directory for settings if an absolute one is named, else in the one
below the home directory. -/
def settingsPath? (environment : Environment) : Option String :=
  let directory :=
    match (environment.get? "XDG_CONFIG_HOME").filter (·.startsWith "/") with
    | some directory => some directory
    | none => environment.home?.map (· ++ "/.config")
  directory.map (· ++ "/rain8net/rain8net.toml")

/-- What there is at the place of the settings file. -/
def readSettingsFile (path : String) : IO SettingsFile := do
  try
    return .bytes (← IO.FS.readBinFile path)
  catch error =>
    return match error with
      | .noFileOrDirectory .. => .absent
      | error => .unreadable (systemReason error)

end Irrigation

/-- Runs the program. The result is the exit status. -/
def main (words : List String) : IO UInt32 := do
  let environment ← Irrigation.readVariables
  let path := Irrigation.settingsPath? environment
  let settingsFile ←
    match path with
    | some path => Irrigation.readSettingsFile path
    | none => pure .absent
  let invocation : Irrigation.Invocation :=
    { words, environment, settingsPath := path.getD "", settingsFile }
  let ending ← invocation.run Irrigation.systemHost
  (← IO.getStdout).putStr ending.printout.stdout
  (← IO.getStderr).putStr ending.printout.stderr
  return UInt32.ofNat ending.status
