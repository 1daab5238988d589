import SensorGateway.Program.Run

/-!
The program.

It gathers what a run is given from the system, runs, shows what the run says, and writes back the
files that the run has changed. Which files a run reads is known in two steps, for the file of
settings names the others.
-/

set_option autoImplicit false

namespace SensorGateway.Program

/-- The variables that are set and concern the program. -/
def gatherEnvironment : IO Config.Environment := do
  let names := Config.fileVariable :: Config.settingVariables.map (·.name)
  names.filterMapM fun name => do return (← IO.getEnv name).map fun value => (name, value)

/-- Reads the standard input to its end. -/
partial def gatherInput (input : IO.FS.Stream) (sofar : ByteArray) : IO ByteArray := do
  let more ← input.read 4096
  if more.isEmpty then return sofar else gatherInput input (sofar ++ more)

/-- Reads a file into the disk, if it can be read. -/
def gatherFile (d : Disk) (path : String) : IO Disk := do
  try return d.withFile path (← IO.FS.readBinFile path).toList
  catch _ => return d

/-- Reads the files that a run reads. -/
def gatherFiles (i : Invocation) : IO Invocation := do
  return { i with disk := ← (pathsOf i).foldlM gatherFile i.disk }

/-- Writes a file back if the run has changed it. -/
def writeBack (before after : Disk) (path : String) : IO Unit := do
  match before.read path, after.read path with
  | .ok old, .ok new => unless old = new do IO.FS.writeBinFile path ⟨new.toArray⟩
  | .error _, .ok new => IO.FS.writeBinFile path ⟨new.toArray⟩
  | _, .error _ => return

end SensorGateway.Program

open SensorGateway in
/-- Runs the gateway with the arguments that the program was called with. -/
def main (arguments : List String) : IO UInt32 := do
  let environment ← Program.gatherEnvironment
  let i ← Program.gatherFiles { arguments := arguments, environment := environment }
  let i ← Program.gatherFiles i
  let input ←
    if Program.readsInput i then Program.gatherInput (← IO.getStdin) .empty else pure .empty
  let outcome := Program.run { i with input := input.toList }
  IO.print outcome.output
  IO.eprint outcome.errors
  (Program.pathsOf i).forM (Program.writeBack i.disk outcome.disk)
  return outcome.code.toUInt32
