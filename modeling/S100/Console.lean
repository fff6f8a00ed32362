import S100.Console.Buffered
import S100.Console.Stream

/-!
# The serial console

What is plugged into the serial card: a pair of buffers or a line. The
card can read a byte, write a byte, and ask whether there is one to read.
-/

namespace S100

inductive Console where
  | buffered (console : Console.Buffered)
  | stream (console : Console.Stream)
deriving DecidableEq, Repr

namespace Console

def readByte : Console → UInt8 × Console
  | buffered c =>
    let (byte, c) := c.readByte
    (byte, buffered c)
  | stream c =>
    let (byte, c) := c.readByte
    (byte, stream c)

def writeByte (byte : UInt8) : Console → Console
  | buffered c => buffered (c.writeByte byte)
  | stream c => stream (c.writeByte byte)

def ready : Console → Bool × Console
  | buffered c => (c.ready, buffered c)
  | stream c =>
    let (ready, c) := c.ready
    (ready, stream c)

end Console

end S100
