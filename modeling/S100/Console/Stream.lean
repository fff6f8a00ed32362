import S100.Bytes

/-!
# The stream console

A console at the end of a line. What is sent down the line arrives in
order, and can still be read after the sender has hung up. The console
looks at the line one byte ahead: asking whether there is input may take a
byte off the line, and that byte is the next to be read.

Output goes to a writer byte by byte, without its parity bit, and each
byte is flushed. While the writer is broken, output is lost; the machine
does not notice.
-/

namespace S100.Console

structure Stream where
  /-- The byte taken off the line and not yet read. -/
  pending : Option UInt8 := none
  /-- Sent and still on the line, the oldest byte first. -/
  line : List UInt8 := []
  hungUp : Bool := false
  /-- Written and flushed, the oldest byte first. -/
  output : Bytes := #[]
  flushes : Nat := 0
  broken : Bool := false
deriving DecidableEq, Repr

namespace Stream

/-- Look at the line for the next byte, unless one is pending. -/
def poll (c : Stream) : Stream :=
  match c.pending, c.line with
  | none, byte :: later => { c with pending := some byte, line := later }
  | _, _ => c

/-! ## The machine's side -/

def readByte (c : Stream) : UInt8 × Stream :=
  let c := c.poll
  (c.pending.getD 0, { c with pending := none })

def writeByte (c : Stream) (byte : UInt8) : Stream :=
  if c.broken then c
  else { c with
    output := c.output.push (byte &&& 0x7F)
    flushes := c.flushes + 1 }

def ready (c : Stream) : Bool × Stream :=
  let c := c.poll
  (c.pending.isSome, c)

/-! ## The host's side -/

/-- Put bytes on the line, as long as it is held. -/
def send (c : Stream) (bytes : Bytes) : Stream :=
  if c.hungUp then c else { c with line := c.line ++ bytes.toList }

def hangUp (c : Stream) : Stream :=
  { c with hungUp := true }

def setBroken (c : Stream) (broken : Bool) : Stream :=
  { c with broken }

def takeOutput (c : Stream) : Bytes × Stream :=
  (c.output, { c with output := #[] })

/-- What a key sends: the software of the time expects a carriage return
where a host ends its lines. -/
def keyByte (byte : UInt8) : UInt8 :=
  if byte = 0x0A then 0x0D else byte

end Stream

end S100.Console
