import S100.Cpu.Step

/-!
# The front panel

The panel works on the *current address*, which is the one on the address
lights. Its operations reach the bus from outside the instruction flow:
they make at most one cycle and fetch nothing. Only `examine` moves the
program counter, and only it lets a halted processor go on.
-/

namespace S100.Cpu

/-- Select an address: show what it holds, go on from there, and end a
halt. -/
def examine (cpu : Cpu) (address : UInt16) : Dialogue Cpu :=
  .read address fun data => .done
    { cpu with regs.pc := address, halted := false, lights := ⟨address, data⟩ }

/-- Show the next address. -/
def examineNext (cpu : Cpu) : Dialogue Cpu :=
  let address := cpu.lights.address + 1
  .read address fun data => .done { cpu with lights := ⟨address, data⟩ }

/-- Store a byte at the current address. -/
def deposit (cpu : Cpu) (data : UInt8) : Dialogue Cpu :=
  .write cpu.lights.address data (.done { cpu with lights.data := data })

/-- Store a byte at the current address, then move to the next one. Its
contents are not shown. -/
def depositNext (cpu : Cpu) (data : UInt8) : Dialogue Cpu := do
  let cpu ← cpu.deposit data
  return { cpu with lights.address := cpu.lights.address + 1 }

end S100.Cpu
