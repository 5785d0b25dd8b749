import SegmentCache.CommandLine.Basic
import SegmentCache.Format.Device

/-!
# Reading arguments

Arguments are taken one by one. A value that stands in an argument of its own is only looked at
once the next argument has been recognised, so an argument that is not known is reported before a
value that is wrong.
-/

namespace SegmentCache

/-- What has been read and still waits to be looked at. -/
inductive Pending where
  /-- Nothing. -/
  | nothing
  /-- An option and its value, if that has come. -/
  | option (opt : RunOption) (value : Option String)
  /-- The script. -/
  | script (value : String)

/-- Arguments as far as they have been taken. -/
structure RunReading where
  /-- The arguments that have been looked at. -/
  arguments : RunArguments := {}
  /-- The options that have been looked at. -/
  seen : List RunOption := []
  /-- What waits to be looked at. -/
  pending : Pending := .nothing
  /-- Whether the script has been named. -/
  hasScript : Bool := false

namespace RunReading

/-- A path that may not be empty. -/
def path (value : String) : Except UsageFault String :=
  if value.isEmpty then .error .invalidValue else .ok value

/-- Sets an option to a value. -/
def setValue (arguments : RunArguments) (value : String) :
    RunOption → Except UsageFault RunArguments
  | .config => do return { arguments with config := some (← path value) }
  | .cpuCapacity =>
    match Text.readNumeral UInt64.size value.toList with
    | .ok bytes => .ok { arguments with cpuCapacity := UInt64.ofNat bytes }
    | .error _ => .error .unreadableValue
  | .gpu =>
    match Device.ofText value with
    | .ok device => .ok { arguments with devices := arguments.devices ++ [device] }
    | .error _ => .error .unreadableValue
  | .logDir => do return { arguments with logDir := some (← path value) }
  | .logLevel =>
    match Level.ofOption? value with
    | some level => .ok { arguments with logLevel := level }
    | none => .error .invalidValue
  | .profiling | .jsonLogs | .help => .error .valueForFlag

/-- Takes note of an option, which may be repeated only if it lists devices. -/
def note (reading : RunReading) (opt : RunOption) : Except UsageFault RunReading :=
  if opt ≠ .gpu ∧ opt ∈ reading.seen then .error .repeated
  else .ok { reading with seen := opt :: reading.seen }

/-- Looks at an option and its value. -/
def takeOption (reading : RunReading) (opt : RunOption) (value : String) :
    Except UsageFault RunReading := do
  let reading ← reading.note opt
  return { reading with arguments := ← setValue reading.arguments value opt }

/-- Looks at what waits. -/
def resolve (reading : RunReading) : Except UsageFault RunReading :=
  match reading.pending with
  | .nothing => .ok reading
  | .option _ none => .error .invalidValue
  | .option opt (some value) => { reading with pending := .nothing }.takeOption opt value
  | .script value => do
    let script ← path value
    return { reading with
      pending := .nothing
      arguments := { reading.arguments with script := some script } }

/-- Takes a flag. -/
def takeFlag (reading : RunReading) (opt : RunOption) : Except UsageFault RunReading := do
  let reading ← reading.resolve
  match opt with
  | .profiling => do
    let reading ← reading.note opt
    return { reading with arguments := { reading.arguments with profiling := true } }
  | .jsonLogs => do
    let reading ← reading.note opt
    return { reading with arguments := { reading.arguments with jsonLogs := true } }
  | _ => .error .helpRequested

/-- The name and the value of an argument that begins with two dashes. -/
def splitOption (cs : List Char) : String × Option String :=
  let name := cs.takeWhile (· ≠ '=')
  let rest := cs.drop name.length
  (String.ofList name, rest.head?.map fun _ => String.ofList rest.tail)

/-- Takes an argument that begins with two dashes, without them. -/
def takeLong (reading : RunReading) (cs : List Char) : Except UsageFault RunReading :=
  let (name, value) := splitOption cs
  match RunOption.ofText? name, value with
  | none, _ => .error .unknownArgument
  | some opt, none =>
    if opt.isFlag then reading.takeFlag opt
    else do
      let reading ← reading.resolve
      return { reading with pending := .option opt none }
  | some opt, some value =>
    if opt.isFlag then .error .valueForFlag
    else do
      let reading ← reading.resolve
      reading.takeOption opt value

/-- Takes an argument that begins with one dash. Only help can be asked for that way. -/
def takeShort (reading : RunReading) (first : Char) : Except UsageFault RunReading :=
  if first = 'h' then reading.takeFlag .help else .error .unknownArgument

/-- Takes an argument without a dash, or any argument once options have ended. -/
def takePositional (reading : RunReading) (value : String) : Except UsageFault RunReading :=
  if reading.hasScript then .error .unknownArgument
  else do
    let reading ← reading.resolve
    return { reading with pending := .script value, hasScript := true }

/-- Takes arguments in turn. `ended` tells that no more options can come. -/
def takeAll (ended : Bool) (reading : RunReading) :
    List String → Except UsageFault RunArguments
  | [] => do
    let reading ← reading.resolve
    return reading.arguments
  | argument :: rest =>
    if ended then do
      let reading ← reading.takePositional argument
      reading.takeAll true rest
    else
      match argument.toList with
      | ['-', '-'] => reading.takeAll true rest
      | '-' :: '-' :: cs => do
        let reading ← reading.takeLong cs
        reading.takeAll false rest
      | '-' :: c :: _ => do
        let reading ← reading.takeShort c
        reading.takeAll false rest
      | _ =>
        match reading.pending with
        | .option opt none =>
          { reading with pending := .option opt (some argument) }.takeAll false rest
        | _ => do
          let reading ← reading.takePositional argument
          reading.takeAll false rest

end RunReading

namespace RunArguments

/-- Whether an argument names a command. -/
def isCommand (argument : String) : Bool :=
  argument == "run" || argument == "help"

/-- What comes of asking for help on commands. -/
def helpFault (arguments : List String) : UsageFault :=
  match arguments with
  | [] => .helpRequested
  | [argument] => if isCommand argument then .helpRequested else .unknownCommand
  | _ => .unknownCommand

/-- Reads the arguments of the program. -/
def ofArguments : List String → Except UsageFault RunArguments
  | [] => .error .helpDue
  | argument :: rest =>
    if argument = "run" then RunReading.takeAll false {} rest
    else if argument = "help" then .error (helpFault rest)
    else
      match argument.toList with
      | ['-', '-'] =>
        match rest with
        | [] => .error .helpDue
        | next :: _ => .error (if isCommand next then .unknownArgument else .unknownCommand)
      | '-' :: '-' :: cs =>
        let (name, value) := RunReading.splitOption cs
        if name = "help" then
          .error (if value.isSome then .valueForFlag else .helpRequested)
        else .error .unknownArgument
      | '-' :: c :: _ => .error (if c = 'h' then .helpRequested else .unknownArgument)
      | _ => .error .unknownCommand

end RunArguments

end SegmentCache
