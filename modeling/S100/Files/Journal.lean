import S100.Bytes

/-!
# Writes to host files

A machine does not touch files. It notes what is to be written where, and
whoever runs the machine carries the notes out, oldest first. A write
stays inside the file as it was when its contents were taken: it changes
bytes and never a length (`size_apply`).
-/

namespace S100

/-- Bytes to be written into a file from an offset on. -/
structure FileWrite where
  path : String
  offset : Nat
  bytes : Bytes
deriving DecidableEq, Repr

/-- The contents of the written file after the write. -/
def FileWrite.apply (w : FileWrite) (contents : Bytes) : Bytes :=
  overlay contents w.offset w.bytes

@[simp] theorem FileWrite.size_apply (w : FileWrite) (contents : Bytes) :
    (w.apply contents).size = contents.size :=
  size_overlay _ _ _

end S100
