import Std.Data.ExtTreeMap
import SegmentCache.FileFault
import SegmentCache.Text.Pieces

/-!
# File trees

The files a run can see, as a value. Directories and files stand at paths below the working
directory, above it or below the root, and a path is followed component by component, as far as
directories lead.
-/

namespace SegmentCache

/-- What stands at a path. -/
inductive FileNode where
  /-- A directory. -/
  | directory
  /-- A file with its bytes. -/
  | file (bytes : ByteArray)

/-- The directories and files that are known. -/
structure FileTree where
  /-- What stands at each path, the components of a path being joined by slashes. -/
  nodes : Std.ExtTreeMap String FileNode

namespace FileTree

/-- The tree with nothing in it. -/
def empty : FileTree where
  nodes := ∅

/-- The components of a path as they are written. A slash at the beginning, which leads to the
root, is a component of its own. -/
def components (path : String) : List String :=
  let names := ((Text.pieces '/' path.toList).filter (· ≠ [])).map String.ofList
  if path.startsWith "/" then "/" :: names else names

/-- The components of a path without the current directory, except at its beginning. -/
def plainComponents (path : String) : List String :=
  match components path with
  | [] => []
  | first :: rest => first :: rest.filter (· ≠ ".")

/-- The path of a file in a directory. -/
def join (directory file : String) : String :=
  if directory.isEmpty || directory.endsWith "/" then directory ++ file
  else directory ++ "/" ++ file

/-- The name under which a place is kept. Places are lists of components, innermost first. -/
def placeName (place : List String) : String :=
  String.intercalate "/" place.reverse

/-- Whether a place is the working directory or one above it. -/
def isAncestor (place : List String) : Bool :=
  place.all (· = "..")

/-- The place above a place. There is none above the root. -/
def above (place : List String) : List String :=
  if place = ["/"] then place
  else if isAncestor place then ".." :: place
  else place.tail

/-- What stands at a place. -/
def node? (tree : FileTree) (place : List String) : Option FileNode :=
  if place = ["/"] || isAncestor place then some .directory
  else tree.nodes[placeName place]?

/-- Puts a node at a place. -/
def setNode (tree : FileTree) (place : List String) (node : FileNode) : FileTree :=
  { nodes := tree.nodes.insert (placeName place) node }

/-- Refuses a component that cannot be a name. -/
def checkName (name : String) : Except FileFault Unit :=
  if name.utf8ByteSize ≤ 255 then .ok () else .error .nameTooLong

/-- Follows components from a place, each of which has to lead to a directory. -/
def walk (tree : FileTree) (place : List String) : List String → Except FileFault (List String)
  | [] => .ok place
  | "/" :: rest => tree.walk ["/"] rest
  | "." :: rest => tree.walk place rest
  | ".." :: rest => tree.walk (above place) rest
  | name :: rest => do
    checkName name
    match tree.node? (name :: place) with
    | some .directory => tree.walk (name :: place) rest
    | some (.file _) => .error .notADirectory
    | none => .error .notFound

/-- The bytes a path has to stay below. -/
def pathLimit : Nat := 4096

/-- Refuses a path that no file system accepts. -/
def checkPath (path : String) : Except FileFault Unit :=
  if path.toList.contains '\x00' then .error .holdsNul
  else if path.utf8ByteSize < pathLimit then .ok ()
  else .error .nameTooLong

/-- The place a list of components names, and what stands there. Its parent has to exist. -/
def locate (tree : FileTree) (names : List String) :
    Except FileFault (List String × Option FileNode) :=
  match names.getLast? with
  | none => .error .notFound
  | some last => do
    let parent ← tree.walk [] names.dropLast
    if last = "/" then .ok (["/"], some .directory)
    else if last = "." then .ok (parent, some .directory)
    else if last = ".." then .ok (above parent, some .directory)
    else do
      checkName last
      .ok (last :: parent, tree.node? (last :: parent))

/-- The bytes of the file at a path. A path that ends in a slash leads to directories only. -/
def read (tree : FileTree) (path : String) : Except FileFault ByteArray := do
  checkPath path
  match ← tree.locate (components path) with
  | (_, none) => .error .notFound
  | (_, some .directory) => .error .isADirectory
  | (_, some (.file bytes)) =>
    if path.endsWith "/" then .error .notADirectory else .ok bytes

/-- The text of the file at a path. -/
def readText (tree : FileTree) (path : String) : Except FileFault String := do
  match String.fromUTF8? (← tree.read path) with
  | some text => .ok text
  | none => .error .notText

/-- Writes a file at a path, in place of any file that stood there. -/
def write (tree : FileTree) (path : String) (bytes : ByteArray) : Except FileFault FileTree := do
  checkPath path
  match ← tree.locate (components path) with
  | (_, some .directory) => .error .isADirectory
  | (place, _) => .ok (tree.setNode place (.file bytes))

/-- Makes one directory where nothing stands yet. -/
def makeDirectory (tree : FileTree) (names : List String) : Except FileFault FileTree := do
  match ← tree.locate names with
  | (_, some _) => .error .alreadyExists
  | (place, none) => .ok (tree.setNode place .directory)

/-- Whether the components lead to a directory. -/
def isDirectory (tree : FileTree) (names : List String) : Bool :=
  match tree.walk [] names with
  | .ok _ => true
  | .error _ => false

/-- Makes the listed directories in turn, passing over those that are there. What was made before
a failure stays. -/
def makeEach : List (List String) → FileTree → Except FileFault Unit × FileTree
  | [], tree => (.ok (), tree)
  | names :: rest, tree =>
    match tree.makeDirectory names with
    | .ok tree => makeEach rest tree
    | .error fault =>
      if fault = .alreadyExists && tree.isDirectory names then makeEach rest tree
      else (.error fault, tree)

/-- Looks upwards for the first directory that is there or can be made, and then makes those that
were missing below it, which `missing` lists from the top down. -/
def makeUpwards : List (List String) → List (List String) → FileTree →
    Except FileFault Unit × FileTree
  | [], missing, tree => makeEach missing tree
  | names :: rest, missing, tree =>
    match tree.makeDirectory names with
    | .ok tree => makeEach missing tree
    | .error .notFound => makeUpwards rest (names :: missing) tree
    | .error fault =>
      if fault = .alreadyExists && tree.isDirectory names then makeEach missing tree
      else (.error fault, tree)

/-- Makes the directory at a path together with the directories above it. -/
def makeDirectories (tree : FileTree) (path : String) : Except FileFault Unit × FileTree :=
  match checkPath path with
  | .error fault => (.error fault, tree)
  | .ok () =>
    let plain := plainComponents path
    let above := (List.range (plain.length - 1)).reverse.map fun k => plain.take (k + 1)
    if plain.isEmpty then (.ok (), tree)
    else makeUpwards (components path :: above) [] tree

end FileTree

end SegmentCache
