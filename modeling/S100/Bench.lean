import S100.Memory

/-!
# The test bench

A bench is the smallest system a processor can be tried on: memory, and
for each input port a script, the bytes it will answer with. A port whose
script has run out, or that has none, answers 0. Outputs go nowhere.
-/

namespace S100

structure Bench where
  memory : Memory
  /-- For each scripted port the bytes still to come. -/
  scripts : List (UInt8 × List UInt8) := []

namespace Bench

/-- Take a port's next byte from its script. -/
def takeFrom (port : UInt8) :
    List (UInt8 × List UInt8) → UInt8 × List (UInt8 × List UInt8)
  | [] => (0, [])
  | (owner, script) :: rest =>
    if owner = port then
      match script with
      | [] => (0, (owner, []) :: rest)
      | data :: later => (data, (owner, later) :: rest)
    else
      let (data, rest) := takeFrom port rest
      (data, (owner, script) :: rest)

instance : Bus Bench where
  read bench address := (bench.memory.read address, bench)
  write bench address data :=
    { bench with memory := bench.memory.write address data }
  input bench port :=
    let (data, scripts) := takeFrom port bench.scripts
    (data, { bench with scripts })
  output bench _ _ := bench

end Bench

end S100
