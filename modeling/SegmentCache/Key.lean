import SegmentCache.Text.Pieces

/-!
# Keys of cached files

Workers name a cached object by the path of the file behind it, while the cache stores it under
the last component of that path, if this is a name. Two paths with the same key name the same
object.
-/

namespace SegmentCache

/-- A component of a path. -/
inductive PathComponent where
  /-- The root directory. -/
  | root
  /-- The current directory. -/
  | current
  /-- The parent directory. -/
  | parent
  /-- A name in a directory. -/
  | normal (name : List Char)
  deriving DecidableEq, Repr

/-- The component that a piece between separators stands for. Where nothing stands between two
separators, or the current directory does, there is none. -/
def PathComponent.ofPiece? (piece : List Char) : Option PathComponent :=
  if piece = [] ∨ piece = ['.'] then none
  else if piece = ['.', '.'] then some .parent
  else some (.normal piece)

/-- The components of a path. A separator at the beginning is the root directory, and only at the
beginning the current directory is a component. -/
def pathComponents (path : String) : List PathComponent :=
  match Text.pieces '/' path.toList with
  | [] :: piece :: pieces => .root :: (piece :: pieces).filterMap PathComponent.ofPiece?
  | ['.'] :: pieces => .current :: pieces.filterMap PathComponent.ofPiece?
  | pieces => pieces.filterMap PathComponent.ofPiece?

/-- The name in which a path ends, if its last component is one. -/
def fileName? (path : String) : Option String :=
  match (pathComponents path).getLast? with
  | some (.normal name) => some (String.ofList name)
  | _ => none

/-- The key of a path: the name in which it ends. A path that does not end in a name is its own
key. -/
def entryKey (path : String) : String :=
  (fileName? path).getD path

end SegmentCache
