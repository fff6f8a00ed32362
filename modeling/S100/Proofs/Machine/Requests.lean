import S100.Proofs.Floppy.Unseen
import S100.Proofs.Machine.Operations
import S100.Proofs.Setup.Building

/-!
# What can be asked of an Altair

An Altair can be stepped, used from its front panel, and used by the host,
which reaches the ports, wires them, types, loads memory and handles
diskettes. A `Request` is one of these, and `respond` says what comes of it:
an answer, and the machine afterwards.

Two machines are `Indistinguishable` if no requests in any number and order
tell them apart. Machines are, where they differ only in what their floppy
controllers do not show (`SameButDisks.indistinguishable`).
-/

namespace S100

/-! ## Backplanes -/

/-- Two backplanes that are the same, but for what their floppy controllers do
not show. -/
structure Backplane.SameButDisks (first second : Array FileWrite)
    (s t : Backplane) : Prop where
  memory : s.memory = t.memory
  wiring : s.ports.wiring = t.ports.wiring
  console : s.ports.devices.console = t.ports.devices.console
  switches : s.ports.devices.switches = t.ports.devices.switches
  disks : s.ports.devices.disks.SameBut first second t.ports.devices.disks

namespace Backplane.SameButDisks

variable {first second : Array FileWrite} {s t : Backplane}

theorem input (h : SameButDisks first second s t) (port : UInt8) :
    (Bus.input s port).1 = (Bus.input t port).1
      ∧ SameButDisks first second (Bus.input s port).2
        (Bus.input t port).2 := by
  obtain ⟨memory, wiring, console, switches, disks⟩ := s
  obtain ⟨_, _, _, _, disks'⟩ := t
  obtain ⟨rfl, rfl, rfl, rfl, hdisks⟩ := h
  simp only [Bus.input, Ports.input]
  cases wiring.get port with
  | none => exact ⟨rfl, rfl, rfl, rfl, rfl, hdisks⟩
  | some function =>
      cases function with
      | terminalStatus | terminalData | senseSwitches =>
          exact ⟨rfl, rfl, rfl, rfl, rfl, hdisks⟩
      | diskSelectStatus =>
          exact ⟨hdisks.status.symm, rfl, rfl, rfl, rfl, hdisks⟩
      | diskFunctionSector =>
          obtain ⟨htold, hturned⟩ := hdisks.querySector
          exact ⟨htold.symm, rfl, rfl, rfl, rfl, hturned⟩
      | diskData =>
          obtain ⟨hread, hmoved⟩ := hdisks.readData
          exact ⟨hread.symm, rfl, rfl, rfl, rfl, hmoved⟩

theorem output (h : SameButDisks first second s t) (port data : UInt8) :
    SameButDisks first second (Bus.output s port data)
      (Bus.output t port data) := by
  obtain ⟨memory, wiring, console, switches, disks⟩ := s
  obtain ⟨_, _, _, _, disks'⟩ := t
  obtain ⟨rfl, rfl, rfl, rfl, hdisks⟩ := h
  simp only [Bus.output, Ports.output]
  cases wiring.get port with
  | none => exact ⟨rfl, rfl, rfl, rfl, hdisks⟩
  | some function =>
      cases function with
      | terminalStatus | terminalData | senseSwitches =>
          exact ⟨rfl, rfl, rfl, rfl, hdisks⟩
      | diskSelectStatus => exact ⟨rfl, rfl, rfl, rfl, hdisks.select data⟩
      | diskFunctionSector => exact ⟨rfl, rfl, rfl, rfl, hdisks.command data⟩
      | diskData => exact ⟨rfl, rfl, rfl, rfl, hdisks.writeData data⟩

theorem read (h : SameButDisks first second s t) (address : UInt16) :
    (Bus.read s address).1 = (Bus.read t address).1
      ∧ SameButDisks first second (Bus.read s address).2
        (Bus.read t address).2 :=
  ⟨congrArg (Memory.read · address) h.memory, h⟩

theorem write (h : SameButDisks first second s t) (address : UInt16)
    (data : UInt8) :
    SameButDisks first second (Bus.write s address data)
      (Bus.write t address data) :=
  ⟨congrArg (Memory.write · address data) h.memory, h.wiring, h.console,
    h.switches, h.disks⟩

/-- A dialogue goes the same way on both. -/
theorem run {α : Type} (h : SameButDisks first second s t) (d : Dialogue α) :
    (d.run s).1 = (d.run t).1
      ∧ SameButDisks first second (d.run s).2 (d.run t).2 :=
  Dialogue.run_simulation (fun _ _ address h => h.read address)
    (fun _ _ address data h => h.write address data)
    (fun _ _ port h => h.input port)
    (fun _ _ port data h => h.output port data) d s t h

/-- A dialogue makes the same cycles on both. -/
theorem cycles {α : Type} (h : SameButDisks first second s t)
    (d : Dialogue α) : d.cycles s = d.cycles t := by
  induction d generalizing s t with
  | done a => rfl
  | read address next ih =>
      obtain ⟨hdata, hrest⟩ := h.read address
      simp only [Dialogue.cycles, hdata]
      rw [ih _ hrest]
  | write address data next ih =>
      exact congrArg (_ :: ·) (ih (h.write address data))
  | input port next ih =>
      obtain ⟨hdata, hrest⟩ := h.input port
      simp only [Dialogue.cycles, hdata]
      rw [ih _ hrest]
  | output port data next ih =>
      exact congrArg (_ :: ·) (ih (h.output port data))

end Backplane.SameButDisks

/-! ## Requests -/

namespace Altair

/-- Something that is asked of an Altair: by its front panel, at its ports, or
by the host. -/
inductive Request where
  | step
  | examine (address : UInt16)
  | examineNext
  | deposit (data : UInt8)
  | depositNext (data : UInt8)
  /-- Take a byte from a port, as the processor does. -/
  | input (port : UInt8)
  /-- Give a byte to a port, as the processor does. -/
  | output (port data : UInt8)
  | wire (port : UInt8) (function : Option PortFunction)
  | type (bytes : Bytes)
  | load (address : UInt16) (image : Bytes)
  | mount (drive : Nat) (diskette : Diskette)
  | eject (drive : Nat)
  | reset

/-- What a request is answered. -/
inductive Answer where
  | done
  | stepped (result : StepResult) (cycles : List Cycle)
  | byte (data : UInt8)
  /-- The function that a port was wired to. -/
  | wired (before : Option PortFunction)
  | refused (error : SetupError)
  | ejected (diskette : Option Diskette)
deriving DecidableEq

/-- The answer to a request, and the machine after it. -/
def respond (m : Altair) : Request → Answer × Altair
  | .step => (.stepped m.step.1 (m.cpu.step.cycles m.bus), m.step.2)
  | .examine address => (.done, m.examine address)
  | .examineNext => (.done, m.examineNext)
  | .deposit data => (.done, m.deposit data)
  | .depositNext data => (.done, m.depositNext data)
  | .input port =>
    let (data, bus) := Bus.input m.bus port
    (.byte data, { m with bus })
  | .output port data => (.done, { m with bus := Bus.output m.bus port data })
  | .wire port function =>
    let (before, ports) := m.bus.ports.wire port function
    (.wired before, m.mapPorts fun _ => ports)
  | .type bytes =>
    let console := m.bus.ports.devices.console.type bytes
    (.done, m.mapPorts ({ · with devices.console := console }))
  | .load address image => (.done, m.load address image)
  | .mount drive diskette =>
    match m.mount drive diskette with
    | .ok m => (.done, m)
    | .error error => (.refused error, m)
  | .eject drive =>
    let (diskette, disks) := m.disks.eject drive
    (.ejected diskette, m.mapDisks fun _ => disks)
  | .reset => (.done, m.reset)

/-- The machine after some requests. -/
def after (m : Altair) (requests : List Request) : Altair :=
  requests.foldl (fun m request => (m.respond request).2) m

/-- The answers to some requests, in their order. -/
def answers (m : Altair) : List Request → List Answer
  | [] => []
  | request :: rest =>
    (m.respond request).1 :: (m.respond request).2.answers rest

/-! ## Telling machines apart -/

/-- All that can be seen of two machines agrees. The writes for the host's
files are those that have come up since one had noted `first` and the other
`second`. -/
structure Agree (first second : Array FileWrite) (m m' : Altair) : Prop where
  cpu : m.cpu = m'.cpu
  memory : m.bus.memory = m'.bus.memory
  wiring : m.bus.ports.wiring = m'.bus.ports.wiring
  console : m.bus.ports.devices.console = m'.bus.ports.devices.console
  switches : m.bus.ports.devices.switches = m'.bus.ports.devices.switches
  diskette : ∀ drive, m.disks.diskette? drive = m'.disks.diskette? drive
  written : ∃ noted, m.disks.journal = first ++ noted
    ∧ m'.disks.journal = second ++ noted

/-- Whatever is asked of the two machines, they answer the same, and agree in
all that can be seen afterwards. -/
def Indistinguishable (m m' : Altair) : Prop :=
  ∀ requests, m.answers requests = m'.answers requests
    ∧ Agree m.disks.journal m'.disks.journal (m.after requests)
      (m'.after requests)

/-- Two machines that are the same, but for what their floppy controllers do
not show. -/
structure SameButDisks (first second : Array FileWrite) (m m' : Altair) :
    Prop where
  cpu : m.cpu = m'.cpu
  bus : m.bus.SameButDisks first second m'.bus
  startAddress : m.startAddress = m'.startAddress

namespace SameButDisks

variable {first second : Array FileWrite} {m m' : Altair}

theorem agree (h : SameButDisks first second m m') :
    Agree first second m m' where
  cpu := h.cpu
  memory := h.bus.memory
  wiring := h.bus.wiring
  console := h.bus.console
  switches := h.bus.switches
  diskette drive := (h.bus.disks.diskette? drive).symm
  written := h.bus.disks.journal

/-- Only the backplane is changed, and in both the same way. -/
theorem withBus (h : SameButDisks first second m m') {s t : Backplane}
    (hbus : s.SameButDisks first second t) :
    SameButDisks first second { m with bus := s } { m' with bus := t } :=
  ⟨h.cpu, hbus, h.startAddress⟩

theorem withDisks (h : SameButDisks first second m m')
    {c c' : Floppy.Controller} (hdisks : c.SameBut first second c') :
    SameButDisks first second (m.mapDisks fun _ => c)
      (m'.mapDisks fun _ => c') :=
  h.withBus ⟨h.bus.memory, h.bus.wiring, h.bus.console, h.bus.switches, hdisks⟩

theorem hold {α : Type} (h : SameButDisks first second m m')
    (d : Dialogue (α × Cpu)) :
    (m.hold d).1 = (m'.hold d).1
      ∧ SameButDisks first second (m.hold d).2 (m'.hold d).2 := by
  obtain ⟨hresult, hbus⟩ := h.bus.run d
  exact ⟨congrArg (·.1) hresult, congrArg (·.2) hresult, hbus, h.startAddress⟩

theorem panel (h : SameButDisks first second m m') (d : Cpu → Dialogue Cpu) :
    SameButDisks first second (m.panel (d m.cpu)) (m'.panel (d m'.cpu)) := by
  rw [← h.cpu]
  exact (h.hold _).2

theorem mount (h : SameButDisks first second m m') (drive : Nat)
    (diskette : Diskette) :
    (m.respond (.mount drive diskette)).1 =
        (m'.respond (.mount drive diskette)).1
      ∧ SameButDisks first second (m.respond (.mount drive diskette)).2
        (m'.respond (.mount drive diskette)).2 := by
  have hcount : m'.disks.driveCount = m.disks.driveCount :=
    h.bus.disks.driveCount
  by_cases hdrive : drive < m.disks.driveCount
  · simp only [respond, Altair.mount, mount_of_lt hdrive,
      mount_of_lt (hcount.symm ▸ hdrive)]
    exact ⟨trivial, h.withDisks (h.bus.disks.mount drive diskette)⟩
  · simp only [respond, Altair.mount, Floppy.Controller.mount, hcount,
      if_neg hdrive]
    exact ⟨trivial, h⟩

theorem respond (h : SameButDisks first second m m') (request : Request) :
    (m.respond request).1 = (m'.respond request).1
      ∧ SameButDisks first second (m.respond request).2
        (m'.respond request).2 := by
  cases request with
  | step =>
      obtain ⟨hresult, hrest⟩ := h.hold m.cpu.step
      have hcycles := h.bus.cycles m.cpu.step
      simp only [Altair.respond, Altair.step, ← h.cpu]
      exact ⟨by rw [hresult, hcycles], hrest⟩
  | examine address => exact ⟨rfl, h.panel (·.examine address)⟩
  | examineNext => exact ⟨rfl, h.panel (·.examineNext)⟩
  | deposit data => exact ⟨rfl, h.panel (·.deposit data)⟩
  | depositNext data => exact ⟨rfl, h.panel (·.depositNext data)⟩
  | input port =>
      obtain ⟨hdata, hbus⟩ := h.bus.input port
      exact ⟨congrArg Answer.byte hdata, h.withBus hbus⟩
  | output port data => exact ⟨rfl, h.withBus (h.bus.output port data)⟩
  | wire port function =>
      refine ⟨congrArg (fun w : Wiring => Answer.wired (w.get port))
        h.bus.wiring, ?_⟩
      exact h.withBus ⟨h.bus.memory,
        congrArg (·.set port function) h.bus.wiring, h.bus.console,
        h.bus.switches, h.bus.disks⟩
  | type bytes =>
      exact ⟨rfl, h.withBus ⟨h.bus.memory, h.bus.wiring,
        congrArg (·.type bytes) h.bus.console, h.bus.switches, h.bus.disks⟩⟩
  | load address image =>
      exact ⟨rfl, h.withBus ⟨congrArg (·.load address image) h.bus.memory,
        h.bus.wiring, h.bus.console, h.bus.switches, h.bus.disks⟩⟩
  | mount drive diskette => exact h.mount drive diskette
  | eject drive =>
      obtain ⟨hdiskette, hdisks⟩ := h.bus.disks.eject drive
      exact ⟨congrArg Answer.ejected hdiskette.symm, h.withDisks hdisks⟩
  | reset =>
      have hcpu : SameButDisks first second { m with cpu := {} }
          { m' with cpu := {} } := ⟨rfl, h.bus, h.startAddress⟩
      exact ⟨rfl, hcpu.withDisks h.bus.disks.reset⟩

theorem after (h : SameButDisks first second m m')
    (requests : List Request) :
    SameButDisks first second (m.after requests) (m'.after requests) := by
  induction requests generalizing m m' with
  | nil => exact h
  | cons request rest ih => exact ih (h.respond request).2

theorem answers (h : SameButDisks first second m m')
    (requests : List Request) : m.answers requests = m'.answers requests := by
  induction requests generalizing m m' with
  | nil => rfl
  | cons request rest ih =>
      obtain ⟨hanswer, hrest⟩ := h.respond request
      rw [Altair.answers, Altair.answers, hanswer, ih hrest]

/-- What the floppy controllers do not show cannot be found out. -/
theorem indistinguishable
    (h : SameButDisks m.disks.journal m'.disks.journal m m') :
    Indistinguishable m m' :=
  fun requests => ⟨h.answers requests, (h.after requests).agree⟩

end SameButDisks

end Altair

end S100
