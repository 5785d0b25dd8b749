import Std.Time
import SegmentCache.CommandLine.Reading
import SegmentCache.CommandLine.Run

/-!
# The program

Collects the files a run can see, runs the script, prints the answers, and writes the usage report
back. Everything that is decided is decided by `RunArguments.ofArguments` and `RunArguments.run`.
-/

namespace SegmentCache

/-- How the program is used. -/
def usageText : String :=
  "Worker object cache manager\n\n" ++
  "Usage: run [OPTIONS] [SCRIPT]\n\n" ++
  "Arguments:\n" ++
  "  [SCRIPT]  Command script, one JSON message per line; standard input when omitted\n\n" ++
  "Options:\n" ++
  "      --config <CONFIG>              JSON configuration file; overrides the capacity flags\n" ++
  "      --cpu-capacity <CPU_CAPACITY>  Host cache capacity in bytes\n" ++
  "      --gpu <GPUS>                   <device_id>,<pci_bus_id>,<capacity_bytes>\n" ++
  "      --profiling\n" ++
  "      --log-dir <LOG_DIR>            Directory for profiler output and log files\n" ++
  "      --log-level <LOG_LEVEL>        trace, debug, info, warn or error\n" ++
  "      --json-logs\n" ++
  "  -h, --help                         Print help"

/-- What is said about arguments that are wrong. -/
def UsageFault.message : UsageFault → String
  | .helpRequested | .helpDue => usageText
  | .unknownCommand => "error: unrecognized subcommand"
  | .unknownArgument => "error: unexpected argument"
  | .invalidValue => "error: missing or invalid value"
  | .unreadableValue => "error: unreadable value"
  | .valueForFlag => "error: unexpected value for a flag"
  | .repeated => "error: an option cannot be used multiple times"

/-- The wording of a cause. -/
def RunCause.message : RunCause → String
  | .note text => text
  | .file fault => fault.message
  | .unsound failure => failure.message
  | .unreadable (.flaw .truncated) => "unexpected end of input"
  | .unreadable (.flaw .malformed) => "syntax error"
  | .unreadable (.mismatch mismatch) => mismatch.message
  | .loopCrashed => "task panicked"

/-- Adds what stands at a path and at the paths that lead to it to a tree. What cannot be read is
left out. -/
def collect (tree : FileTree) (path : String) : IO FileTree := do
  let names := FileTree.components path
  let mut tree := tree
  for k in List.range names.length do
    let part := String.intercalate "/" (names.take (k + 1))
    try
      let bytes ← IO.FS.readBinFile part
      tree := (tree.write part bytes).toOption.getD tree
    catch
      | .inappropriateType .. => tree := (tree.makeDirectories part).2
      | _ => pure ()
  return tree

/-- The current time. -/
def currentTime : IO String := do
  let now ← Std.Time.Timestamp.now
  let time := Std.Time.DateTime.ofTimestampWithZone now Std.Time.TimeZone.UTC
  return time.format "uuuu-MM-dd'T'HH:mm:ss.SSSSSSSSS" ++ "+00:00"

/-- Where the usage report of a run goes, if it has a place. -/
def RunArguments.reportPlace (arguments : RunArguments) (files : FileTree) :
    Option (String × String) :=
  match arguments.cacheConfig files with
  | .ok config => config.logDir.map fun directory =>
    (directory, FileTree.join directory Profile.reportName)
  | .error _ => none

/-- Runs a script on the files of the machine. -/
def RunArguments.perform (arguments : RunArguments) : IO UInt32 := do
  let named := [arguments.config, arguments.script, arguments.logDir].filterMap id
  let tree ← named.foldlM collect FileTree.empty
  let place := arguments.reportPlace tree
  let tree ← (place.map fun (directory, path) => [directory, path]).getD [] |>.foldlM collect tree
  let input ← if arguments.script.isNone then (← IO.getStdin).readBinToEnd else pure ByteArray.empty
  if let some directory := arguments.logDir then
    try IO.FS.createDirAll directory
    catch error => IO.eprintln s!"{error}"
  let result := arguments.run tree input (← currentTime)
  for line in result.printed do
    IO.println line
  if let some (directory, path) := place then
    let before := (tree.read path).toOption.map (·.toList)
    if let .ok bytes := result.files.read path then
      unless before = some bytes.toList do
        IO.FS.createDirAll directory
        IO.FS.writeBinFile path bytes
  match result.result with
  | .ok () => pure ()
  | .error causes =>
    IO.eprintln ("Error: " ++ String.intercalate "\n" (causes.map (·.message)))
  | .crashed => IO.eprintln "capacity overflow"
  return UInt32.ofNat result.exitCode

end SegmentCache

/-- Reads the arguments and runs the script. -/
def main (args : List String) : IO UInt32 := do
  match SegmentCache.RunArguments.ofArguments args with
  | .ok arguments => arguments.perform
  | .error fault =>
    if fault = .helpRequested then IO.println fault.message else IO.eprintln fault.message
    return UInt32.ofNat fault.exitCode
