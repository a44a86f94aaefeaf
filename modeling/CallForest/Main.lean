import CallForest.Program

/-! # Running the program

The program on the files of a machine. No other program can be launched from here, so every format
that needs a layout program fails region by region.

* `Machine.host`: the files of the machine as a host.
* `main`: runs the program. -/

namespace CallForest

namespace Machine

/-- The fault that a failed request shows. -/
def faultOf : IO.Error → SystemFault
  | .noFileOrDirectory .. => .notFound
  | .alreadyExists _ number text | .otherError number text | .resourceBusy number text
  | .resourceVanished number text | .unsupportedOperation number text | .hardwareFault number text
  | .unsatisfiedConstraints number text | .illegalOperation number text | .protocolError number text
  | .timeExpired number text | .interrupted _ number text | .invalidArgument _ number text
  | .permissionDenied _ number text | .resourceExhausted _ number text
  | .inappropriateType _ number text | .noSuchThing _ number text => .ofNumber text number.toNat
  | .unexpectedEof => .other "unexpected end of file" 0
  | .userError text => .other text 0

/-- A request with its fault as a value. -/
def attempt {α : Type} (request : IO α) : IO (Except SystemFault α) := do
  match ← request.toBaseIO with
  | .ok value => return .ok value
  | .error error => return .error (faultOf error)

/-- A request on a path, which cannot hold the character that ends texts. -/
def onPath {α : Type} (path : String) (request : IO α) : IO (Except SystemFault α) :=
  if path.toList.contains '\x00' then return .error .nulInPath else attempt request

/-- The **files of the machine** as a host. -/
def host : Host IO where
  environment name := IO.getEnv name
  read path := onPath path do return (← IO.FS.readBinFile path).toList
  makeDirectories path := onPath path do unless path = "" do IO.FS.createDirAll path
  write path text := onPath path (IO.FS.writeFile path text)
  launch _ _ := return .error (.other "Function not implemented" 38)

/-- What is printed when help is asked for. -/
def help : String :=
  "Renders the call graphs of an analysis document.\n\n" ++
    "Usage: purity-viz [OPTIONS] <INPUT>\n\n" ++
    "Options:\n" ++
    "  -o, --output-dir <OUTPUT_DIR>    Directory diagrams are written to\n" ++
    "  -f, --format <FORMAT>            Output format: dot, svg, png or pdf\n" ++
    "      --include-passing            Also draw passing functions\n" ++
    "      --exclude-failing            Do not draw failing functions\n" ++
    "  -j, --jobs <JOBS>                Number of regions rendered in parallel\n" ++
    "      --dot-program <DOT_PROGRAM>  Layout program\n" ++
    "  -c, --config <CONFIG>            Configuration file\n" ++
    "  -v, --verbose                    Enable debug logging\n" ++
    "  -h, --help                       Print help\n" ++
    "  -V, --version                    Print version\n"

/-- Prints what there is to say about an ending. -/
def tell : Ending → IO Unit
  | .success => return
  | .failure failure => IO.eprint failure.report
  | .usage .displayHelp => IO.print help
  | .usage .displayVersion => IO.println "purity-viz 0.1.0"
  | .usage error => IO.eprintln ("error: " ++ error.message)
  | .brokenOff => IO.eprintln "a directive of the log filter cannot be cut within a character"

end Machine

end CallForest

/-- Runs the program on the files of the machine. -/
def main (words : List String) : IO UInt32 := do
  let ending ← CallForest.Program.run CallForest.Machine.host words
  CallForest.Machine.tell ending
  return UInt32.ofNat ending.status
