import Thesaurus.Cli.Run

/-!
The `skos-analysis` program: it runs its command line over the files of the disk and the
machine's monotonic clock, writes the run's two texts and exits with its code.
-/

namespace Thesaurus

/-- The reason a file cannot be read, in the words of the operating system. -/
def ioReason (e : IO.Error) : String :=
  match e with
  | .noFileOrDirectory _ code _ => "No such file or directory (os error " ++ toString code ++ ")"
  | .permissionDenied _ code _ => "Permission denied (os error " ++ toString code ++ ")"
  | other => toString other

/-- The files of the disk and the monotonic clock. -/
def disk : Host IO where
  read path := do
    try
      pure (.ok (← IO.FS.readFile path))
    catch e =>
      pure (.error (ioReason e))
  clock := IO.monoNanosNow

end Thesaurus

/-- Runs the command line and exits with the run's code. -/
def main (args : List String) : IO UInt32 := do
  let o ← Thesaurus.Cli.run Thesaurus.disk args
  IO.print o.stdout
  IO.eprint o.stderr
  pure o.code.toUInt32
