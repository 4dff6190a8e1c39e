import LinkPlanner.CommandLine

/-! The program: it is given the path of a request file and prints the plan for it. -/

namespace LinkPlanner.CommandLine

/-- Why a file cannot be read, in the words of the operating system. -/
def readingTrouble : IO.Error → String
  | .noFileOrDirectory .. => "No such file or directory (os error 2)"
  | .permissionDenied .. => "Permission denied (os error 13)"
  | .inappropriateType .. => "Is a directory (os error 21)"
  | .userError _ => "stream did not contain valid UTF-8"
  | e => toString e

def usage : String := "Usage: thinlink [--time] <REQUEST>"

/-- Plans the request in a file. With `time`, also tells which phases the planning went through. -/
def planFile (path : String) (time : Bool) : IO UInt32 := do
  let content ← (Except.ok <$> IO.FS.readFile path) |>.catchExceptions fun e => pure (.error (readingTrouble e))
  let (result, closed) := run path content
  if time then
    for (depth, phase) in closed do
      IO.eprintln (String.ofList (List.replicate (2 * depth) ' ') ++ phase.name)
  match result with
  | .ok plan =>
    IO.print plan.text
    pure 0
  | .error trouble =>
    IO.eprint trouble.report
    pure trouble.status

end LinkPlanner.CommandLine

open LinkPlanner.CommandLine

/-- Takes the path of the request file and, before or after it, the flag `--time`. -/
def main (args : List String) : IO UInt32 := do
  let (flags, paths) := args.partition (·.startsWith "--")
  match paths with
  | [path] =>
    if flags.all (· == "--time") then planFile path (!flags.isEmpty)
    else
      IO.eprintln usage
      pure 2
  | _ =>
    IO.eprintln usage
    pure 2
