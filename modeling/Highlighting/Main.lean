import Highlighting.CommandLine.Run

/-!
The command line program.
-/
namespace Highlighting.Program

def faultOf : IO.Error → FileFault
  | .noFileOrDirectory _ _ _ => .missing
  | .inappropriateType _ 21 _ => .isDirectory
  | e => .other e.toString

def attempt (act : IO ByteArray) : IO (Except FileFault ByteArray) := do
  try return .ok (← act) catch e => return .error (faultOf e)

partial def readAll (stream : IO.FS.Stream) (sofar : ByteArray) : IO ByteArray := do
  let chunk ← stream.read 65536
  if chunk.isEmpty then return sofar else readAll stream (sofar ++ chunk)

def host : IO (CommandLine.Host IO) := do
  return {
    readFile := fun path => attempt (IO.FS.readBinFile path)
    readInput := attempt (do readAll (← IO.getStdin) .empty)
    home := ← IO.getEnv "HOME" }

end Highlighting.Program

def main (arguments : List String) : IO UInt32 := do
  let outcome ← Highlighting.CommandLine.run (← Highlighting.Program.host) arguments
  (← IO.getStdout).putStr (String.ofList outcome.output)
  (← IO.getStderr).putStr (String.ofList outcome.errors)
  return UInt32.ofNat outcome.code
