import S100.Backplane
import S100.Proofs.Checked.Controller
import S100.Proofs.Checked.Dialogues

/-!
# The backplane does not trap

On a host an image is copied into memory by ranges: where it is to end is a
sum of sizes, cut down to the end of memory, and as many bytes are taken of
the image as lie between. Reading and writing single bytes is no such matter,
since an address that is not populated is not looked up.

A port is wired in a table with an entry for each of the 256 port numbers.
Behind it only the floppy controller has something to compute. As long as that
one is in order, a guarded dialogue that is safe for another can be held with
the backplane without a trap, and comes to what the other one comes to
(`hold_eq`).
-/

namespace S100

/-! ## Images -/

/-- An image in the memory of a host. Not even half of the sizes that fit into
their width are those of something that a host can hold. -/
structure HostImage where
  bytes : Bytes
  size_lt : bytes.size < 2 ^ (Checked.sizeBits - 1)

/-- What lies past the end is not overlaid. -/
theorem overlay_of_size_le {old : Bytes} {offset : Nat}
    (h : old.size ≤ offset) (new : Bytes) : overlay old offset new = old := by
  refine Array.ext (size_overlay ..) fun i hi hi' => ?_
  rw [getElem_overlay _ _ _ _ hi', dif_neg]
  omega

/-- Of an overlay only what finds a place matters. -/
theorem overlay_extract (old : Bytes) (offset : Nat) (new : Bytes) :
    overlay old offset (new.extract 0 (min new.size (old.size - offset))) =
      overlay old offset new := by
  refine Array.ext (by simp only [size_overlay]) fun i hi hi' => ?_
  have hlt : i < old.size := by simpa using hi
  rw [getElem_overlay _ _ _ _ hlt, getElem_overlay _ _ _ _ hlt]
  by_cases h : offset ≤ i ∧ i < offset + new.size
  · rw [dif_pos h, dif_pos (by simp only [Array.size_extract]; omega)]
    simp only [Array.getElem_extract, Nat.zero_add]
  · rw [dif_neg h, dif_neg (by simp only [Array.size_extract]; omega)]

namespace Checked

/-- Put bytes in place of those from `start` up to but not including `stop`,
of which there have to be as many. -/
def copy (m : Memory) (start stop : Nat) (source : Bytes) : Checked Memory :=
  if start ≤ stop ∧ stop ≤ m.size ∧ source.size = stop - start then
    .ok { bytes := overlay m.bytes start source
          size_le := by simpa using m.size_le }
  else .error .outOfBounds

/-- Copy an image into memory as far as memory goes, and tell how much of it
that was. -/
def load (m : Memory) (address : UInt16) (image : HostImage) :
    Checked (Nat × Memory) :=
  let start := address.toNat
  if m.size ≤ start then .ok (0, m)
  else do
    let past ← add sizeBits start image.bytes.size
    let stop := min past m.size
    let count ← sub stop start
    let source ← slice image.bytes 0 count
    let m ← copy m start stop source
    return (count, m)

theorem load_eq (m : Memory) (address : UInt16) (image : HostImage) :
    load m address image =
      .ok (m.loadCount address image.bytes, m.load address image.bytes) := by
  have hstart := address.toNat_lt
  have hsize := image.size_lt
  simp only [sizeBits] at hsize
  by_cases hpast : m.size ≤ address.toNat
  · have hcount : m.loadCount address image.bytes = 0 := by
      rw [Memory.loadCount]
      omega
    have hload : m.load address image.bytes = m := by
      simp only [Memory.load, overlay_of_size_le hpast]
    simp only [load, if_pos hpast, hcount, hload]
  · have hcount : min (address.toNat + image.bytes.size) m.size
        - address.toNat = m.loadCount address image.bytes := by
      rw [Memory.loadCount]
      omega
    have hle : m.loadCount address image.bytes ≤ image.bytes.size :=
      Nat.min_le_left ..
    have hfound : (image.bytes.extract 0
        (m.loadCount address image.bytes)).size =
          m.loadCount address image.bytes := by
      simp only [Array.size_extract]
      omega
    simp only [load, if_neg hpast]
    rw [add_eq (by simp only [sizeBits]; omega), ok_bind, sub_eq (by omega),
      ok_bind, hcount, slice_eq (Nat.zero_le _) hle, ok_bind, copy,
      if_pos ⟨by omega, by omega, by rw [hfound, hcount]⟩, ok_bind]
    simp only [Memory.load, Memory.loadCount, Memory.size, overlay_extract]
    rfl

/-! ## Ports -/

def input (d : Devices) : PortFunction → Checked (UInt8 × Devices)
  | .diskFunctionSector => do
    let (byte, disks) ← querySector d.disks
    return (byte, { d with disks })
  | .diskData => do
    let (byte, disks) ← readData d.disks
    return (byte, { d with disks })
  | function => .ok (d.input function)

def output (d : Devices) (data : UInt8) : PortFunction → Checked Devices
  | .diskFunctionSector => do
    let disks ← command d.disks data
    return { d with disks }
  | .diskData => do
    let disks ← writeData d.disks data
    return { d with disks }
  | function => .ok (d.output data function)

/-- What a port is wired to. -/
def wired (w : Wiring) (port : UInt8) : Checked (Option PortFunction) :=
  index w.functions.toArray port.toNat

def inputPort (p : Ports) (port : UInt8) : Checked (UInt8 × Ports) := do
  match ← wired p.wiring port with
  | none => return (0, p)
  | some function =>
    let (data, devices) ← input p.devices function
    return (data, { p with devices })

def outputPort (p : Ports) (port data : UInt8) : Checked Ports := do
  match ← wired p.wiring port with
  | none => return p
  | some function =>
    let devices ← output p.devices data function
    return { p with devices }

theorem wired_eq (w : Wiring) (port : UInt8) :
    wired w port = .ok (w.get port) :=
  index_eq (by simpa using port.toNat_lt)

section

variable {d : Devices} {p : Ports}

theorem input_eq (h : d.disks.WellFormed) (function : PortFunction) :
    input d function = .ok (d.input function)
      ∧ (d.input function).2.disks.WellFormed := by
  cases function with
  | diskFunctionSector =>
      refine ⟨?_, h.act .querySector⟩
      rw [input, querySector_eq h]
      rfl
  | diskData =>
      refine ⟨?_, h.act .readData⟩
      rw [input, readData_eq h]
      rfl
  | terminalStatus | terminalData | senseSwitches | diskSelectStatus =>
      exact ⟨rfl, h⟩

theorem output_eq (h : d.disks.WellFormed) (data : UInt8)
    (function : PortFunction) :
    output d data function = .ok (d.output data function)
      ∧ (d.output data function).disks.WellFormed := by
  cases function with
  | diskSelectStatus => exact ⟨rfl, h.act (.select data)⟩
  | diskFunctionSector =>
      refine ⟨?_, h.act (.command data)⟩
      rw [output, command_eq h]
      rfl
  | diskData =>
      refine ⟨?_, h.act (.writeData data)⟩
      rw [output, writeData_eq h]
      rfl
  | terminalStatus | terminalData | senseSwitches => exact ⟨rfl, h⟩

theorem inputPort_eq (h : p.devices.disks.WellFormed) (port : UInt8) :
    inputPort p port = .ok (p.input port)
      ∧ (p.input port).2.devices.disks.WellFormed := by
  rw [inputPort, wired_eq, ok_bind, Ports.input]
  cases p.wiring.get port with
  | none => exact ⟨rfl, h⟩
  | some function =>
      obtain ⟨hinput, hkept⟩ := input_eq h function
      refine ⟨?_, hkept⟩
      show input p.devices function >>= _ = _
      rw [hinput]
      rfl

theorem outputPort_eq (h : p.devices.disks.WellFormed) (port data : UInt8) :
    outputPort p port data = .ok (p.output port data)
      ∧ (p.output port data).devices.disks.WellFormed := by
  rw [outputPort, wired_eq, ok_bind, Ports.output]
  cases p.wiring.get port with
  | none => exact ⟨rfl, h⟩
  | some function =>
      obtain ⟨houtput, hkept⟩ := output_eq h data function
      refine ⟨?_, hkept⟩
      show output p.devices data function >>= _ = _
      rw [houtput]
      rfl

end

/-! ## Holding a guarded dialogue -/

variable {α : Type}

/-- Hold a guarded dialogue with a backplane whose ports may trap. -/
def hold : Dialogue (Checked α) → Backplane → Checked (α × Backplane)
  | .done x, bus => do
    let a ← x
    return (a, bus)
  | .read address next, bus => hold (next (bus.memory.read address)) bus
  | .write address data next, bus => hold next (Bus.write bus address data)
  | .input port next, bus => do
    let (data, ports) ← inputPort bus.ports port
    hold (next data) { bus with ports }
  | .output port data next, bus => do
    let ports ← outputPort bus.ports port data
    hold next { bus with ports }

theorem hold_eq {g : Guarded α} {d : Dialogue α} (hsafe : Guarded.Safe g d)
    {bus : Backplane} (h : bus.ports.devices.disks.WellFormed) :
    hold g.run bus = .ok (d.run bus)
      ∧ (d.run bus).2.ports.devices.disks.WellFormed := by
  unfold Guarded.Safe at hsafe
  generalize g.run = guarded at hsafe ⊢
  induction hsafe generalizing bus with
  | done hx =>
      subst hx
      exact ⟨rfl, h⟩
  | read _ ih => exact ih _ h
  | write _ ih => exact ih h
  | @input port next next' _ ih =>
      obtain ⟨hinput, hkept⟩ := inputPort_eq h port
      have hnext : ({ bus with ports := (bus.ports.input port).2 } :
        Backplane).ports.devices.disks.WellFormed := hkept
      obtain ⟨hheld, hafter⟩ := ih (bus.ports.input port).1 hnext
      refine ⟨?_, hafter⟩
      show inputPort bus.ports port >>= _ = _
      rw [hinput]
      exact hheld
  | @output port data next next' _ ih =>
      obtain ⟨houtput, hkept⟩ := outputPort_eq h port data
      have hnext : ({ bus with ports := bus.ports.output port data } :
        Backplane).ports.devices.disks.WellFormed := hkept
      obtain ⟨hheld, hafter⟩ := ih hnext
      refine ⟨?_, hafter⟩
      show outputPort bus.ports port data >>= _ = _
      rw [houtput]
      exact hheld

end Checked

end S100
