import ControlPanel.Monitor.CommandLine

/-!
# The monitor

Reads the environment, runs the monitor, and writes its log and what went wrong.
-/

open ControlPanel

def main : IO UInt32 := do
  let values ← CommandLine.names.mapM fun name => return (name, ← IO.getEnv name)
  let result := CommandLine.run fun name => (values.lookup name).join
  for line in CommandLine.lines result do
    IO.println line
  IO.eprint result.errors
  return UInt32.ofNat result.exitCode
