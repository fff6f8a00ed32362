import S100.Bench
import S100.Main
import S100.Proofs.Cpu.Plant
import S100.Proofs.Cpu.Reference
import S100.Proofs.Cpu.Arithmetic
import S100.Proofs.Cpu.View
import S100.Proofs.Cpu.Instructions
import S100.Proofs.Cpu.Refinement
import S100.Proofs.Floppy.Operations
import S100.Proofs.Floppy.WellFormed
import S100.Proofs.Floppy.Filling
import S100.Proofs.Floppy.Procedures
import S100.Proofs.Floppy.RoundTrip
import S100.Proofs.Floppy.Transfers
import S100.Proofs.Floppy.Commits
import S100.Proofs.Floppy.TornSectors
import S100.Proofs.Floppy.Durability
import S100.Proofs.Run.Slices
import S100.Proofs.Cpu.Cycles
import S100.Proofs.Floppy.Confinement
import S100.Proofs.Cpu.Steps
import S100.Proofs.Cpm.SystemCalls
import S100.Proofs.Cpm.WarmBoot
import S100.Proofs.Cpu.FlagHistory
import S100.Proofs.Machine.Operations
import S100.Proofs.Machine.HaltLatch
import S100.Proofs.Cpu.Observables
import S100.Proofs.Setup.Building
import S100.Proofs.Setup.Drives
import S100.Proofs.Floppy.Unseen
import S100.Proofs.Machine.Requests
import S100.Proofs.Floppy.Renewal
import S100.Proofs.Machine.Restart
import S100.Proofs.Floppy.Selection
import S100.Proofs.Console.Queue
import S100.Proofs.Ports.Projection
import S100.Proofs.Floppy.WholeDisk
import S100.Proofs.Cpm.Printing
import S100.Proofs.Floppy.Status
import S100.Proofs.Machine.ShortMemory
import S100.Proofs.Checked.Machine
import S100.Proofs.CommandLine.Overrides
import S100.Proofs.Setup.HostFiles
import S100.Proofs.Run.Composition
import S100.Proofs.CommandLine.Images
import S100.Proofs.Cpu.Toggling
import S100.Proofs.Cpu.StackInstructions
import S100.Proofs.Floppy.Traffic
import S100.Proofs.Floppy.Positions
import S100.Proofs.Cpu.LongNumbers
import S100.Proofs.Floppy.FileDisks
import S100.Proofs.Machine.PrintLoop
import S100.Proofs.Memory.ByteStore
