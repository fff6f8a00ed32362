import S100.Console
import S100.Floppy.Controller
import S100.Memory

/-!
# The backplane

Memory and three cards share the bus: the serial card with its console,
the front panel's sense switches, and the floppy controller. Each of the
256 port numbers is wired to one function of one card, or to nothing: an
unwired port reads 0 and ignores what is written to it.

Wiring is exact, one port at a time, and can be changed. The standard
wiring is

| port | in              | out           |
|------|-----------------|---------------|
| 0x08 | disk status     | drive select  |
| 0x09 | sector position | disk command  |
| 0x0A | disk data       | disk data     |
| 0x10 | serial status   | ignored       |
| 0x11 | serial data     | serial data   |
| 0xFF | sense switches  | ignored       |
-/

namespace S100

/-- The function of a card that a port can be wired to. -/
inductive PortFunction where
  | terminalStatus
  | terminalData
  | senseSwitches
  | diskSelectStatus
  | diskFunctionSector
  | diskData
deriving DecidableEq, Repr

/-- What each port is wired to. -/
structure Wiring where
  functions : Vector (Option PortFunction) 256
deriving DecidableEq

namespace Wiring

def bare : Wiring where
  functions := Vector.replicate 256 none

def get (w : Wiring) (port : UInt8) : Option PortFunction :=
  have : port.toNat < 256 := port.toNat_lt
  w.functions[port.toNat]

def set (w : Wiring) (port : UInt8) (function : Option PortFunction) :
    Wiring where
  functions := w.functions.set port.toNat function port.toNat_lt

def standard : Wiring :=
  bare
    |>.set 0x08 (some .diskSelectStatus)
    |>.set 0x09 (some .diskFunctionSector)
    |>.set 0x0A (some .diskData)
    |>.set 0x10 (some .terminalStatus)
    |>.set 0x11 (some .terminalData)
    |>.set 0xFF (some .senseSwitches)

theorem get_set (w : Wiring) (port other : UInt8)
    (function : Option PortFunction) :
    (w.set port function).get other =
      if port = other then function else w.get other := by
  simp only [get, set, Vector.getElem_set, UInt8.toNat_inj]

end Wiring

/-- The cards' devices. -/
structure Devices where
  console : Console := .buffered {}
  switches : UInt8 := 0
  disks : Floppy.Controller := .ofDrives Floppy.Controller.defaultDrives
deriving DecidableEq, Repr

namespace Devices

/-- The serial card can always send, and has received something when its
console is ready. -/
def serialStatus (ready : Bool) : UInt8 :=
  bif ready then 0x03 else 0x02

/-- Take a byte from a card. -/
def input (d : Devices) : PortFunction → UInt8 × Devices
  | .terminalStatus =>
    let (ready, console) := d.console.ready
    (serialStatus ready, { d with console })
  | .terminalData =>
    let (byte, console) := d.console.readByte
    (byte, { d with console })
  | .senseSwitches => (d.switches, d)
  | .diskSelectStatus => (d.disks.status, d)
  | .diskFunctionSector =>
    match d with
    | ⟨console, switches, disks⟩ =>
      let (byte, disks) := disks.querySector
      (byte, ⟨console, switches, disks⟩)
  | .diskData =>
    match d with
    | ⟨console, switches, disks⟩ =>
      let (byte, disks) := disks.readData
      (byte, ⟨console, switches, disks⟩)

/-- Give a byte to a card. -/
def output (d : Devices) (data : UInt8) : PortFunction → Devices
  | .terminalStatus | .senseSwitches => d
  | .terminalData => { d with console := d.console.writeByte data }
  | .diskSelectStatus => { d with disks := d.disks.select data }
  | .diskFunctionSector => { d with disks := d.disks.command data }
  | .diskData => { d with disks := d.disks.writeData data }

end Devices

/-- The wired ports. -/
structure Ports where
  wiring : Wiring := .standard
  devices : Devices := {}
deriving DecidableEq

namespace Ports

def input (p : Ports) (port : UInt8) : UInt8 × Ports :=
  match p.wiring.get port with
  | none => (0, p)
  | some function =>
    match p with
    | ⟨wiring, devices⟩ =>
      let (data, devices) := devices.input function
      (data, ⟨wiring, devices⟩)

def output (p : Ports) (port data : UInt8) : Ports :=
  match p.wiring.get port with
  | none => p
  | some function => { p with devices := p.devices.output data function }

/-- Wire a port: the function it had before, and the new ports. -/
def wire (p : Ports) (port : UInt8) (function : Option PortFunction) :
    Option PortFunction × Ports :=
  (p.wiring.get port, { p with wiring := p.wiring.set port function })

/-- The wired ports with their functions, in the order of their
numbers. -/
def wired (p : Ports) : List (UInt8 × PortFunction) :=
  (List.range 256).filterMap fun n =>
    let port := UInt8.ofNat n
    (p.wiring.get port).map (port, ·)

end Ports

structure Backplane where
  memory : Memory
  ports : Ports := {}

namespace Backplane

instance : Bus Backplane where
  read bus address := (bus.memory.read address, bus)
  write bus address data :=
    { bus with memory := bus.memory.write address data }
  input bus port :=
    match bus with
    | ⟨memory, ports⟩ =>
      let (data, ports) := ports.input port
      (data, ⟨memory, ports⟩)
  output bus port data :=
    { bus with ports := bus.ports.output port data }

end Backplane

end S100
