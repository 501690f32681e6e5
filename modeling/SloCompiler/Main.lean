import SloCompiler.CommandLine.Run

namespace SloCompiler.CommandLine

def usageLine : String :=
  "usage: monitoring-mixin [-h] -m MIXIN [-i INPUT_DIR] [-o OUTPUT_DIR] [-r] [-d] " ++
    "[--log-level \x7bDEBUG,INFO,WARNING,ERROR\x7d]"

def readFile (p : Path) : IO (Except Fault String) := do
  try return .ok (← IO.FS.readFile p.text)
  catch
    | .noFileOrDirectory .. => return .error (.file .notFound)
    | _ => return .error (.file .system)

def isPresent (p : Path) : IO Bool := do
  try
    discard (IO.FS.Handle.mk p.text .read)
    return true
  catch _ => return false

def perform : FileStep → IO Unit
  | .remove folder => IO.FS.removeDirAll folder.text
  | .makeFolder folder => IO.FS.createDirAll folder.text
  | .write file s => IO.FS.writeFile file.text s

def deploy (level : LogLevel) (d : Deployment) : IO UInt32 := do
  let isThere ← isPresent d.folder
  IO.eprint (Event.log level (d.events isThere false))
  (d.stepsFrom isThere).forM perform
  IO.eprint (Event.log level (d.events false true))
  return 0

def start (o : Options) (level : LogLevel) (path : Path) : IO UInt32 := do
  let prepared := Preparation.ofText o path (← readFile path)
  IO.eprint (Event.log level prepared.events)
  match prepared.deployment with
  | .ok d => deploy level d
  | .error _ => return 1

end SloCompiler.CommandLine

open SloCompiler.CommandLine in
def main (words : List String) : IO UInt32 := do
  match Options.ofTexts words with
  | .error .help =>
    IO.println usageLine
    return 0
  | .error (.misuse cause) =>
    IO.eprintln usageLine
    IO.eprintln (Ending.misuse cause).usage
    return 2
  | .ok o =>
    match o.level, o.definitionPath with
    | some level, .ok path => start o level path
    | _, _ => return 1
