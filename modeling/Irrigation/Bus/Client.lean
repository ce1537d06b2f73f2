import Irrigation.Bus.Error
import Irrigation.Bus.Exchange
import Irrigation.Bus.SerialLine

/-!
# Clients of the bus

* `DeviceClient`: whatever can carry out the eight calls, in any monad.
* `DeviceClient.ofExchanges`: the client that makes each call one exchange.
* `SerialLine.perform`: one exchange over a serial line. It sends the whole frame and flushes, and
  only then reads. A read that fails because nobody answers in time is no response; any other
  failure is an error of the line.
* `SerialLine.client`: the client over a serial line.
-/

namespace Irrigation

/-- A device that carries out the calls of the bus. -/
structure DeviceClient (m : Type → Type) where
  zoneOn : UnitId → Zone → m (Except DeviceError Unit)
  zoneOff : UnitId → Zone → m (Except DeviceError Unit)
  allOff : UnitId → m (Except DeviceError Unit)
  readStatus : UnitId → m (Except DeviceError ZoneMask)
  globalAllOff : m (Except DeviceError Unit)
  comCheck : m (Except DeviceError Unit)
  readTimers : UnitId → m (Except DeviceError TimerList)
  writeTimers : UnitId → TimerList → m (Except DeviceError Unit)

/-- The client that makes each call one exchange. -/
def DeviceClient.ofExchanges {m : Type → Type}
    (perform : {α : Type} → Exchange α → m (Except DeviceError α)) : DeviceClient m where
  zoneOn unit zone := perform (.zoneOn unit zone)
  zoneOff unit zone := perform (.zoneOff unit zone)
  allOff unit := perform (.allOff unit)
  readStatus unit := perform (.readStatus unit)
  globalAllOff := perform .globalAllOff
  comCheck := perform .comCheck
  readTimers unit := perform (.readTimers unit)
  writeTimers unit timers := perform (.writeTimers unit timers)

/-- What an exchange makes of an answer of full length. -/
def Exchange.interpret {α : Type} (exchange : Exchange α) (reply : List UInt8) :
    Except DeviceError α :=
  (exchange.decode reply).mapError (.badResponse exchange.target)

/-- What an exchange makes of a fault while it awaits the answer. -/
def Exchange.unanswered {α : Type} (exchange : Exchange α) (fault : Fault) : DeviceError :=
  if fault.isSilence then .noResponse exchange.target else .line fault.text

namespace SerialLine

/-- Sends a frame: writes it whole, then flushes once. -/
def send (frame : List UInt8) (line : SerialLine) : Except Fault Unit × SerialLine :=
  match line.writeAll frame with
  | (.error fault, line) => (.error fault, line)
  | (.ok (), line) => line.flush

/-- Awaits the answer of an exchange. -/
def receive {α : Type} (exchange : Exchange α) (line : SerialLine) :
    Except DeviceError α × SerialLine :=
  match line.readExactly exchange.replyLength with
  | (.error fault, line) => (.error (exchange.unanswered fault), line)
  | (.ok reply, line) => (exchange.interpret reply, line)

/-- Carries out an exchange. -/
def perform {α : Type} (exchange : Exchange α) (line : SerialLine) :
    Except DeviceError α × SerialLine :=
  match line.send exchange.frame with
  | (.error fault, line) => (.error (.line fault.text), line)
  | (.ok (), line) => line.receive exchange

/-- The client over a serial line. -/
def client : DeviceClient (StateM SerialLine) := .ofExchanges perform

end SerialLine

end Irrigation
