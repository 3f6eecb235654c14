import CertConsole.Files.Tree
import CertConsole.Port.Device

/-!
# Serial lines

A serial line is an opened port of the system. It behaves as the device at its far end does, keeps
its name and timeout after it is closed, and tells the log when it discards input and when it is
closed for the first time.
-/
namespace CertConsole

/-- The default speed of the device console. -/
def defaultBaud : Nat := 115200

/-- The default time that one console line is waited for. -/
def defaultTimeout : Milliseconds := 2000

/-- The settings that a serial port is opened with. -/
structure SerialSettings where
  /-- The name or path of the port. -/
  port : String
  /-- The speed of the line. -/
  baud : Nat := defaultBaud
  /-- The time that one console line is waited for. -/
  timeout : Milliseconds := defaultTimeout
  deriving DecidableEq, Repr

/-- Settings with which a reply can be waited for at all. The speed is judged first. -/
def SerialSettings.check (settings : SerialSettings) : Except ConfigFault Unit :=
  if settings.baud = 0 then .error .zeroBaud
  else if settings.timeout = 0 then .error .zeroTimeout
  else .ok ()

/-- An opened port of the system. -/
structure SerialLine where
  /-- The name that the port was opened by. -/
  name : String
  /-- The line and what is at its far end. -/
  device : Device
  deriving DecidableEq, Repr

namespace SerialLine

/-- The line to a device, opened with some settings. -/
def attach (settings : SerialSettings) (device : Device) : SerialLine where
  name := settings.port
  device := { device with timeout := settings.timeout, isClosed := false }

/-- Open the terminal that a path of a file tree leads to, with a device at its far end. -/
def openIn (tree : FileTree) (device : Device) (settings : SerialSettings) :
    Except OpenError SerialLine :=
  (tree.openTerminal settings.port).map fun _ => attach settings device

/-- The line after an operation on the device. -/
def withDevice {α : Type} (line : SerialLine) (result : α × Device) : α × SerialLine :=
  (result.1, { line with device := result.2 })

end SerialLine

instance : Port SerialLine where
  name := SerialLine.name
  patience line := Port.patience line.device
  read line := line.withDevice (Port.read line.device)
  write bytes line := line.withDevice (Port.write bytes line.device)
  flush line := line.withDevice (Port.flush line.device)
  clear line := line.withDevice (Port.clear line.device)
  clearEvents line := if line.device.isClosed then [] else [.discardingInput line.name]
  close line := line.withDevice (Port.close line.device)
  closeEvents line := if line.device.isClosed then [] else [.portClosed line.name]
  pause span line := { line with device := Port.pause span line.device }
  stalls line := Port.stalls line.device
  stalls_of_interrupted bytes line error line' written interrupted := by
    simp only [SerialLine.withDevice, Prod.mk.injEq] at written
    obtain ⟨failed, rfl⟩ := written
    exact Port.stalls_of_interrupted bytes line.device error _ (Prod.ext failed rfl) interrupted
  stalls_of_accepted bytes line count line' written := by
    simp only [SerialLine.withDevice, Prod.mk.injEq] at written
    obtain ⟨accepted, rfl⟩ := written
    exact Port.stalls_of_accepted bytes line.device count _ (Prod.ext accepted rfl)

end CertConsole
