import S100.CommandLine.Session

/-!
# The command

The outermost layer: it reads the files that a command line speaks of, runs
the session, and moves bytes between the console and the standard streams.
All decisions are made elsewhere.
-/

namespace S100.Host

open CommandLine (Plan Session Ending)

/-! ## Files -/

def fault : IO.Error → Fault
  | .permissionDenied .. => .permissionDenied
  | .inappropriateType .. => .isADirectory
  | _ => .notFound

def readFile (path : String) : IO (Except Fault Bytes) := do
  try return .ok (← IO.FS.readBinFile path).data
  catch e => return .error (fault e)

def isWritable (path : String) : IO Bool := do
  try
    let _ ← IO.FS.Handle.mk path .readWrite
    return true
  catch _ => return false

/-- Files as they are now. Others are taken to be missing. -/
def snapshot (paths : List String) : IO FileSource := do
  let known ← paths.mapM fun path => do
    return (path, ← readFile path, ← isWritable path)
  let read (path : String) : Except Fault (Bytes × Bool) := do
    match known.lookup path with
    | none => throw .notFound
    | some (contents, writable) => return (← contents, writable)
  return {
    read := fun path => (read path).map (·.1)
    openDisk := fun path =>
      (read path).map fun (bytes, writable) => ⟨bytes, !writable⟩
    isFile := fun path => (read path).toOption.isSome }

/-- Carry out a write. A file that is not there any more is left alone. -/
def carryOut (write : FileWrite) : IO Unit := do
  try
    let contents ← IO.FS.readBinFile write.path
    let file ← IO.FS.Handle.mk write.path .readWrite
    file.write ⟨write.apply contents.data⟩
  catch e => (← IO.getStderr).putStrLn (toString e)

/-! ## Sessions -/

def prepare (commandLine : List String) : IO (Except Ending Session) := do
  let directory := CommandLine.settingsDirectory?
    (← IO.getEnv "XDG_CONFIG_HOME") (← IO.getEnv "HOME")
  match Plan.ofCommandLine commandLine with
  | .error ending => return .error ending
  | .ok plan =>
    let paths := plan.arguments.configFile.toList
      ++ (directory.map CommandLine.userFile).toList
    match plan.settings (← snapshot paths) directory with
    | .error ending => return .error ending
    | .ok settings => return plan.build (← snapshot settings.files) settings

/-- Collect what is typed, until the input ends. Nothing else stops it, so
the process outlasts its machine until the next key or the end of the
input. -/
partial def listen (input : IO.FS.Stream) (keys : IO.Ref Bytes) :
    IO Unit := do
  let typed ← input.read 1
  unless typed.isEmpty do
    keys.modify (· ++ typed.data)
    listen input keys

/-- Go on slice by slice to the end. -/
partial def serve (output : IO.FS.Stream) (keys : IO.Ref Bytes) (s : Session) :
    IO (Outcome × Session) := do
  let (ended, s) := (s.type (← keys.modifyGet fun typed => (typed, #[]))).advance
  let (printed, s) := s.takeOutput
  unless printed.isEmpty do
    output.write ⟨printed⟩
    output.flush
  let (writes, s) := s.takeWrites
  writes.forM carryOut
  match ended with
  | some outcome => return (outcome, s)
  | none => serve output keys s

def run (s : Session) : IO Unit := do
  let complaints ← IO.getStderr
  let keys ← IO.mkRef #[]
  let _ ← IO.asTask (listen (← IO.getStdin) keys) Task.Priority.dedicated
  s.startNotes.forM complaints.putStrLn
  let (outcome, s) ← serve (← IO.getStdout) keys s
  (s.endNotes outcome).forM complaints.putStrLn

end S100.Host

/-- Run the machine that the command line asks for. -/
def main (commandLine : List String) : IO UInt32 := do
  match ← S100.Host.prepare commandLine with
  | .ok session =>
    S100.Host.run session
    return 0
  | .error ending =>
    (← IO.getStdout).putStr ending.output
    (← IO.getStderr).putStr ending.complaint
    return ending.exitCode
