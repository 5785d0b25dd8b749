import Std.Data.ExtTreeMap
import Std.Data.ExtTreeSet
import SegmentCache.Failure
import SegmentCache.FileTree
import SegmentCache.Json.Basic

/-!
# The usage profile

While profiling is on, the cache counts which function asked for which file through which of its
parameters, and which files it was served. The profile is written as an indented JSON report.
-/

namespace SegmentCache

/-- How often a file was served and offered. -/
structure UseCounts where
  /-- How often the file was served from the cache. -/
  gets : Nat
  /-- How often the file was offered to the cache. -/
  puts : Nat
  deriving DecidableEq, Repr, Inhabited

/-- The uses of the cache, by function, parameter and file. -/
structure Profile where
  /-- The counts of each file by function and parameter. -/
  usage : Std.ExtTreeMap String (Std.ExtTreeMap String (Std.ExtTreeMap String UseCounts))
  /-- The files served to each parameter of a function. -/
  served : Std.ExtTreeMap String (Std.ExtTreeMap String (Std.ExtTreeSet String))

namespace Profile

/-- Nothing has been counted. -/
def empty : Profile where
  usage := ∅
  served := ∅

/-- The counts of a file for a function and parameter. -/
def counts (profile : Profile) (function parameter file : String) : UseCounts :=
  let parameters := (profile.usage[function]?).getD ∅
  let files := (parameters[parameter]?).getD ∅
  (files[file]?).getD { gets := 0, puts := 0 }

/-- Sets the counts of a file for a function and parameter. -/
def setCounts (profile : Profile) (function parameter file : String) (counts : UseCounts) :
    Profile :=
  let parameters := (profile.usage[function]?).getD ∅
  let files := (parameters[parameter]?).getD ∅
  { profile with
    usage := profile.usage.insert function
      (parameters.insert parameter (files.insert file counts)) }

/-- The files served to a parameter of a function, in order. -/
def filesServed (profile : Profile) (function parameter : String) : List String :=
  let parameters := (profile.served[function]?).getD ∅
  ((parameters[parameter]?).getD ∅).toList

/-- Counts a file that was served. -/
def recordGet (profile : Profile) (function parameter file : String) : Profile :=
  let counts := profile.counts function parameter file
  let parameters := (profile.served[function]?).getD ∅
  let files := (parameters[parameter]?).getD ∅
  { profile.setCounts function parameter file { counts with gets := counts.gets + 1 } with
    served := profile.served.insert function
      (parameters.insert parameter (files.insert file)) }

/-- Counts a file that was offered. -/
def recordPut (profile : Profile) (function parameter file : String) : Profile :=
  let counts := profile.counts function parameter file
  profile.setCounts function parameter file { counts with puts := counts.puts + 1 }

/-- Whether nothing has been counted. -/
def isEmpty (profile : Profile) : Bool :=
  profile.usage.isEmpty

/-- How many functions have been counted. -/
def functions (profile : Profile) : Nat :=
  profile.usage.size

/-- The counts of a file as a document. -/
def countsDocument (counts : UseCounts) : Json :=
  .object [("GET", .number counts.gets), ("PUT", .number counts.puts)]

/-- The counts as a document. -/
def usageDocument (profile : Profile) : Json :=
  .object (profile.usage.toList.map fun (function, parameters) =>
    (function, .object (parameters.toList.map fun (parameter, files) =>
      (parameter, .object (files.toList.map fun (file, counts) =>
        (file, countsDocument counts))))))

/-- The served files as a document. -/
def servedDocument (profile : Profile) : Json :=
  .object (profile.served.toList.map fun (function, parameters) =>
    (function, .object (parameters.toList.map fun (parameter, files) =>
      (parameter, .array (files.toList.map .string)))))

/-- The profile as a document. -/
def document (profile : Profile) : Json :=
  .object [("usage", profile.usageDocument), ("get_structure", profile.servedDocument)]

/-- The report of the profile, marked with the time at which it was made. -/
def report (profile : Profile) (time : String) : Json :=
  .object [("generated_at", .string time), ("usage", profile.usageDocument),
    ("get_structure", profile.servedDocument)]

/-- The name of the report in its directory. -/
def reportName : String :=
  "cache_profiler.json"

/-- Writes the report to a directory, which is made if it is missing. -/
def flush (profile : Profile) (time directory : String) (files : FileTree) :
    Except CacheFailure String × FileTree :=
  let path := FileTree.join directory reportName
  match files.makeDirectories directory with
  | (.error fault, files) => (.error (.report path fault), files)
  | (.ok (), files) =>
    match files.write path (profile.report time).indented.toUTF8 with
    | .error fault => (.error (.report path fault), files)
    | .ok files => (.ok path, files)

end Profile

end SegmentCache
