import Catalog.CommandLine

/-! # The program

Reads the file and standard input, and prints how the call ends.
-/

namespace Catalog

/-- The text of a file, or why there is none. -/
def readSource (path : String) : IO (Except String String) := do
  try
    return .ok (← IO.FS.readFile path)
  catch e =>
    match e with
    | .noFileOrDirectory .. => return .error "No such file or directory (os error 2)"
    | .permissionDenied .. => return .error "Permission denied (os error 13)"
    | _ => return .error "stream did not contain valid UTF-8"

/-- All bytes that are left to read. -/
partial def readAll (input : IO.FS.Stream) (bytes : ByteArray) : IO ByteArray := do
  let more ← input.read 65536
  if more.isEmpty then return bytes else readAll input (bytes ++ more)

/-- Prints what a call leaves behind and gives its exit code. -/
def Ending.write (e : Ending) : IO UInt32 := do
  (← IO.getStdout).putStr e.stdout
  (← IO.getStderr).putStr e.stderr
  return UInt32.ofNat e.code

end Catalog

open Catalog in
def main (args : List String) : IO UInt32 := do
  match Call.ofArguments? args with
  | none => Ending.usage.write
  | some call =>
    let sourceText ← readSource call.sourcePath
    let bytes ← readAll (← IO.getStdin) .empty
    (call.ending sourceText (String.fromUTF8? bytes)).write
