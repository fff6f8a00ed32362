import S100.Bytes

/-!
# The buffered console

Two buffers in memory. The host puts what is typed into one and takes what
was printed from the other; the machine does the opposite. Nothing waits:
with nothing typed, the machine reads 0.
-/

namespace S100.Console

structure Buffered where
  /-- Typed and not yet read, the oldest byte first. -/
  input : List UInt8 := []
  /-- Printed and not yet taken, the oldest byte first. -/
  output : Bytes := #[]
deriving DecidableEq, Repr

namespace Buffered

/-! ## The machine's side -/

def readByte (c : Buffered) : UInt8 × Buffered :=
  match c.input with
  | [] => (0, c)
  | byte :: later => (byte, { c with input := later })

def writeByte (c : Buffered) (byte : UInt8) : Buffered :=
  { c with output := c.output.push byte }

def ready (c : Buffered) : Bool :=
  !c.input.isEmpty

/-! ## The host's side -/

def type (c : Buffered) (bytes : Bytes) : Buffered :=
  { c with input := c.input ++ bytes.toList }

def takeOutput (c : Buffered) : Bytes × Buffered :=
  (c.output, { c with output := #[] })

/-- What was printed, as text. Bit 7 is parity to the software of the time
and is left out. -/
def outputText (c : Buffered) : String :=
  String.ofList (c.output.toList.map fun byte => Char.ofNat (byte.toNat % 128))

end Buffered

end S100.Console
