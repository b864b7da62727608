-- The program: reads what the command needs, runs it, and prints.
import Patchbay.CommandLine

open Patchbay Patchbay.CommandLine

/-- The problem of a failed read. -/
def problem : IO.Error → FileProblem
  | .noFileOrDirectory .. => .notFound
  | .permissionDenied .. => .permissionDenied
  | .inappropriateType _ code _ => if code = 21 then .isDirectory else .notDirectory
  | .invalidArgument _ code _ => if code = 36 then .nameTooLong else .broken
  | _ => .broken

/-- What a command reads. -/
def readSource : Source → IO Contents
  | .nothing => pure (.ok [])
  | .standardInput => do
    let bytes ← (← IO.getStdin).readBinToEnd
    pure (.ok bytes.toList)
  | .file name => do
    try
      let bytes ← IO.FS.readBinFile name
      pure (.ok bytes.toList)
    catch e => pure (.error (problem e))

def main (args : List String) : IO UInt32 := do
  match Command.ofArgs? args with
  | none =>
    IO.eprint usage
    pure 2
  | some command =>
    let contents ← readSource command.source
    let result := command.execute .silent Language.depthLimit contents
    IO.print result.stdout
    IO.eprint result.stderr
    pure result.exitCode.toUInt32
