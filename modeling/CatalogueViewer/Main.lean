import CatalogueViewer.CommandLine.Report

/-!
# The command line program

Reads the files that the arguments name and prints the report on them.
-/

open CatalogueViewer

/-- Why a path could not be opened. -/
def readErrorOf : IO.Error → ReadError
  | .noFileOrDirectory .. => .notFound
  | .inappropriateType _ code _ => if code = 20 then .notDirectory else .isDirectory
  | _ => .notFound

def readPath (path : String) : IO (Except ReadError ByteArray) := do
  try return .ok (← IO.FS.readBinFile path)
  catch e => return .error (readErrorOf e)

def pathsOf : Except CommandLine.UsageError CommandLine.Request → List String
  | .ok (.run a) => a.catalogue :: a.config.toList ++ a.task.toList
  | _ => []

def main (arguments : List String) : IO UInt32 := do
  let found ← (pathsOf (CommandLine.Request.ofArguments arguments)).mapM fun path =>
    return (path, ← readPath path)
  let files : Files := fun path =>
    match found.find? fun entry => entry.1 == path with
    | some entry => entry.2
    | none => .error .notFound
  let report := CommandLine.answer files arguments
  IO.print report.output
  IO.eprint report.errors
  return report.code.toUInt32
