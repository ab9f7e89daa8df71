-- SUMMARY: The program: reads its arguments and gets the server ready.
import TribunalListing.CommandLine.Arguments
import TribunalListing.CommandLine.Startup

/-!
# The program

The program reads its arguments and its environment, gets the store, the reference data and the
engine ready, and logs what it does. It exits with the code that tells how far it has come.
-/

namespace TribunalListing.CommandLine

/-- The surroundings of a running program. A store can be opened where its file can be written. -/
def realSurroundings : Surroundings IO where
  openStore path := do
    try
      let _ ← IO.FS.Handle.mk path .append
      return .ok ()
    catch _ => return .error .cannotOpen
  textOf path := do
    try
      return .ok (← IO.FS.readFile path)
    catch
      | .noFileOrDirectory .. => return .error .missing
      | _ => return .error .other
  isFree _ := return true

/-- The environment variables that matter. -/
def realEnvironment : IO Environment := do
  return ⟨← IO.getEnv "HEARING_SERVICE_URL", ← IO.getEnv "HEARING_SERVICE_TOKEN"⟩

/-- What is told about a startup that failed. -/
def StartFailure.message : StartFailure → String
  | .store source => source.message
  | .referenceFile .missing => "reference data not found"
  | .referenceFile _ => "reference data cannot be read"
  | .referenceShape => "reference data have the wrong shape"
  | .portTaken => "address in use"

/-- Starts the server with options that have been read. -/
def run (options : ServerOptions) : IO UInt32 := do
  let (result, lines) ← startup realSurroundings options
  for line in shownLines (← IO.getEnv "RUST_LOG") lines do
    IO.println line.text
  match result with
  | .ok _ => return 0
  | .error failure => do
    IO.eprintln s!"Error: {failure.message}"
    return 1

end TribunalListing.CommandLine

def main (arguments : List String) : IO UInt32 := do
  match TribunalListing.CommandLine.readOptions
      (← TribunalListing.CommandLine.realEnvironment) arguments with
  | .ok options => TribunalListing.CommandLine.run options
  | .error stop => return UInt32.ofNat stop.exitCode
