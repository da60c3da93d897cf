/-
The program.

It has no network of its own, so the link to every server is down: it reads its
command line, reports what is wrong with it, and otherwise tells that the server
could not be reached.
-/
import KeyedLocks.Client.Run

set_option autoImplicit false

open KeyedLocks

def main (args : List String) : IO UInt32 := do
  let environment ← IO.getEnv "EASYLOCK_SERVER"
  let (report, _) := Client.run .down args environment 0
  (← IO.getStdout).putStr report.stdout
  (← IO.getStderr).putStr report.stderr
  return UInt32.ofNat report.exit
