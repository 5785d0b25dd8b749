import SegmentCache.CommandLine.Basic
import SegmentCache.CommandLine.Script
import SegmentCache.FileTree
import SegmentCache.Format.Config

/-!
# Runs

A run makes the log directory, reads the configuration, and replays the script. It fails if the
configuration or the script cannot be had, if a line is not a message, or if a message fails or
crashes the loop. It crashes if reading the script does.
-/

namespace SegmentCache

/-- The configuration of a run: that of its file, or else that of its options. -/
def RunArguments.cacheConfig (arguments : RunArguments) (files : FileTree) :
    Except (List RunCause) Config :=
  match arguments.config with
  | some path =>
    match files.readText path with
    | .error fault => .error [.note s!"reading {path}", .file fault]
    | .ok text =>
      match Config.ofSoundText text with
      | .error (.unreadable failure) => .error [.unreadable failure]
      | .error (.unsound failure) => .error [.unsound failure]
      | .ok config => .ok config
  | none =>
    let config : Config :=
      { cpuCapacity := arguments.cpuCapacity
        devices := arguments.devices
        profiling := arguments.profiling
        logDir := arguments.logDir }
    match config.validated with
    | .error failure => .error [.unsound failure]
    | .ok config => .ok config

/-- What a run leads to. -/
structure RunResult where
  /-- The lines that were printed. -/
  printed : List String
  /-- Why the run failed, if it did, the outermost cause first, unless it crashed. -/
  result : Attempt (List RunCause) Unit
  /-- The files afterwards. -/
  files : FileTree

/-- The status with which the program ends. -/
def RunResult.exitCode (result : RunResult) : Nat :=
  match result.result with
  | .ok () => 0
  | .error _ => 1
  | .crashed => 101

/-- What a run comes to when the loop has stopped: it fails if the loop failed or crashed. -/
def Exit.outcome : Exit → Attempt (List RunCause) Unit
  | .failed failure => .error [.note ("cache manager terminated: " ++ failure.message)]
  | .crashed => .error [.loopCrashed]
  | _ => .ok ()

namespace RunArguments

/-- The bytes of the script, or of the standard input if no script is named. A directory can be
opened but not read. -/
def scriptBytes (arguments : RunArguments) (files : FileTree) (input : ByteArray) :
    Except (List RunCause) ByteArray :=
  match arguments.script with
  | none => .ok input
  | some path =>
    match files.read path with
    | .ok bytes => .ok bytes
    | .error .isADirectory => .error [.file .isADirectory]
    | .error fault => .error [.note s!"opening {path}", .file fault]

/-- Runs the script: the log directory is made first, then the configuration is read, then the
script. -/
def run (arguments : RunArguments) (files : FileTree) (input : ByteArray) (clock : String) :
    RunResult :=
  let files :=
    match arguments.logDir with
    | some directory => (files.makeDirectories directory).2
    | none => files
  match arguments.cacheConfig files with
  | .error causes => { printed := [], result := .error causes, files }
  | .ok config =>
    match Session.start config (Store.empty none) files clock with
    | .error failure => { printed := [], result := .error [.unsound failure], files }
    | .ok (session, _) =>
      match arguments.scriptBytes files input with
      | .error causes => { printed := [], result := .error causes, files }
      | .ok bytes =>
        let start : Replay := { session, printed := [] }
        match start.lines 1 (ScriptLine.ofBytes bytes.toList) with
        | (.ok (), replay) =>
          let (session, exit, _) := replay.session.finish
          { printed := replay.printed, result := exit.outcome, files := session.state.files }
        | (ended, replay) =>
          { printed := replay.printed, result := ended, files := replay.session.state.files }

end RunArguments

end SegmentCache
