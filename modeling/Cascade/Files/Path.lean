import Cascade.Text.Search

/-!
# Paths

A path is a list of names, led by a root if it is absolute. Written, the names are parted by
strokes; names that are empty or a single point say nothing and are left out. So a path has one
written form (`Path.text`), in which a file is spoken of however it was asked for.
-/

namespace Cascade

/-- A path. -/
structure Path where
  /-- The strokes that an absolute path begins with. -/
  root : List Char
  names : List (List Char)
  deriving Repr, DecidableEq, Inhabited

namespace Path

/-- Whether a name says where to go. -/
def isTelling (name : List Char) : Bool := name ≠ [] && name ≠ ['.']

/-- The root of a written path. Two strokes are a root of their own, more are as good as one. -/
def rootOf (s : List Char) : List Char :=
  match s.takeWhile (· = '/') with
  | ['/', '/'] => ['/', '/']
  | '/' :: _ => ['/']
  | _ => []

/-- The path that is written. -/
def ofText (s : List Char) : Path := ⟨rootOf s, (Text.splitOnChar '/' s).filter isTelling⟩

/-- The path as it is written. -/
def text (p : Path) : List Char :=
  match p.root, p.names with
  | [], [] => ['.']
  | root, names => root ++ Text.joinWith ['/'] names

/-- Whether the path starts at the root. -/
def isAbsolute (p : Path) : Bool := p.root ≠ []

/-- All names of a written path say something. -/
theorem isTelling_of_mem_ofText {s name : List Char} (h : name ∈ (ofText s).names) :
    isTelling name = true :=
  (List.mem_filter.1 h).2

end Path

end Cascade
