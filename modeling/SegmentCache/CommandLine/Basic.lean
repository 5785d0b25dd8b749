import SegmentCache.Config
import SegmentCache.Event

/-!
# The command line

The program has one command, which runs a cache over a script of messages. This module holds its
arguments, its options by name, and the ways in which arguments can be wrong.
-/

namespace SegmentCache

/-- How events are logged. -/
structure Logging where
  /-- The least level that is logged. -/
  level : Level := .info
  /-- Whether log lines are JSON. -/
  json : Bool := false
  /-- Where log files go, if there are any. -/
  logDir : Option String := none
  deriving DecidableEq, Repr

/-- The arguments of the command that runs a script. -/
structure RunArguments where
  /-- The script to run; standard input if there is none. -/
  script : Option String := none
  /-- The file that holds the configuration. -/
  config : Option String := none
  /-- The capacity of host memory. -/
  cpuCapacity : UInt64 := 1073741824
  /-- The devices. -/
  devices : List Device := []
  /-- Whether uses are counted. -/
  profiling : Bool := false
  /-- Where reports and log files go. -/
  logDir : Option String := none
  /-- The least level that is logged. -/
  logLevel : Level := .info
  /-- Whether log lines are JSON. -/
  jsonLogs : Bool := false
  deriving DecidableEq, Repr, Inhabited

/-- Why arguments do not lead to a run. -/
inductive UsageFault where
  /-- Help was asked for. -/
  | helpRequested
  /-- There are no arguments, so help is due. -/
  | helpDue
  /-- There is no such command. -/
  | unknownCommand
  /-- There is no such argument. -/
  | unknownArgument
  /-- A value is missing, empty or not among those that are allowed. -/
  | invalidValue
  /-- A value does not have the right form. -/
  | unreadableValue
  /-- A flag was given a value. -/
  | valueForFlag
  /-- An option that may be given once was given twice. -/
  | repeated
  deriving DecidableEq, Repr

/-- The status with which the program ends. -/
def UsageFault.exitCode : UsageFault → Nat
  | .helpRequested => 0
  | _ => 2

/-- An option of the run command. -/
inductive RunOption where
  | config | cpuCapacity | gpu | profiling | logDir | logLevel | jsonLogs | help
  deriving DecidableEq, Repr

namespace RunOption

/-- Every option. -/
def all : List RunOption :=
  [.config, .cpuCapacity, .gpu, .profiling, .logDir, .logLevel, .jsonLogs, .help]

/-- The name of an option behind its two dashes. -/
def text : RunOption → String
  | .config => "config"
  | .cpuCapacity => "cpu-capacity"
  | .gpu => "gpu"
  | .profiling => "profiling"
  | .logDir => "log-dir"
  | .logLevel => "log-level"
  | .jsonLogs => "json-logs"
  | .help => "help"

/-- The option with a name. -/
def ofText? (name : String) : Option RunOption :=
  all.find? fun opt => opt.text == name

/-- Whether an option stands alone. -/
def isFlag : RunOption → Bool
  | .profiling | .jsonLogs | .help => true
  | _ => false

end RunOption

/-- How a run logs. -/
def RunArguments.logging (arguments : RunArguments) : Logging where
  level := arguments.logLevel
  json := arguments.jsonLogs
  logDir := arguments.logDir

end SegmentCache
