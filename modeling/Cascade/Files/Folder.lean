import Cascade.Files.Path
import Cascade.Text.Utf8

/-!
# Files

A folder holds files and further folders. A path leads through it name by name; what it meets on the
way must be there and, up to the last name, be a folder, even where the path turns back. Nothing is
known of what lies outside the folder, except that it is a folder, too.

A file is read as text: its bytes must be UTF-8, and every kind of line end becomes a line feed.
-/

namespace Cascade

/-- Why nothing can be read at a path. -/
inductive FileFault where
  | missing
  | notFolder
  | isFolder
  | nameTooLong
  /-- Any other refusal of the system, by its number and in its words. -/
  | refused (number : Nat) (word : String)
  deriving Repr, DecidableEq

namespace FileFault

/-- The number of a fault. -/
def number : FileFault → Nat
  | .missing => 2
  | .notFolder => 20
  | .isFolder => 21
  | .nameTooLong => 36
  | .refused number _ => number

/-- The fault in words. -/
def word : FileFault → String
  | .missing => "No such file or directory"
  | .notFolder => "Not a directory"
  | .isFolder => "Is a directory"
  | .nameTooLong => "File name too long"
  | .refused _ word => word

end FileFault

/-- A folder: what its files hold, and where there are folders without files. -/
structure Folder where
  files : List (List (List Char) × List UInt8) := []
  folders : List (List (List Char)) := []

/-- A place that a path leads to. -/
inductive Place where
  | inside (names : List (List Char))
  | outside
  deriving Repr, DecidableEq

namespace Folder

/-- The folder that holds files, given by their paths, and further folders, given without
content. -/
def ofEntries (entries : List (String × Option (List UInt8))) : Folder where
  files := entries.filterMap fun (path, content) =>
    content.map fun bytes => ((Path.ofText path.toList).names, bytes)
  folders := entries.filterMap fun (path, content) =>
    if content.isNone then some (Path.ofText path.toList).names else none

/-- The longest name, in bytes. -/
def nameLimit : Nat := 255

/-- Whether a folder is at a place inside. -/
def hasFolder (f : Folder) (names : List (List Char)) : Bool :=
  names.isEmpty || f.folders.any (names.isPrefixOf ·)
    || f.files.any fun (file, _) => names.isPrefixOf file && names ≠ file

/-- What the file at a place inside holds. -/
def content? (f : Folder) (names : List (List Char)) : Option (List UInt8) := f.files.lookup names

/-- The place to which a name leads from another one. -/
def enter (f : Folder) (place : Place) (name : List Char) : Except FileFault Place :=
  let isTooLong : Bool := nameLimit < (Text.encodeUtf8 name).length
  match place with
  | .outside =>
    if name = ['.', '.'] then .ok .outside
    else .error (if isTooLong then .nameTooLong else .missing)
  | .inside here =>
    if !f.hasFolder here then .error .notFolder
    else if name = ['.', '.'] then
      .ok (if here.isEmpty then .outside else .inside here.dropLast)
    else if isTooLong then .error .nameTooLong
    else
      let there := here ++ [name]
      if f.hasFolder there || (f.content? there).isSome then .ok (.inside there)
      else .error .missing

/-- The place that a path leads to. -/
def find (f : Folder) (p : Path) : Except FileFault Place :=
  p.names.foldlM f.enter (if p.isAbsolute then .outside else .inside [])

/-- The bytes at a path. -/
def read (f : Folder) (p : Path) : Except FileFault (List UInt8) := do
  match ← f.find p with
  | .outside => .error .isFolder
  | .inside names =>
    match f.content? names with
    | some bytes => .ok bytes
    | none => .error .isFolder

end Folder

/-- What gives the bytes at paths. -/
abbrev FileSource := Path → Except FileFault (List UInt8)

/-- Why a file cannot be read as text. -/
inductive ReadingFault where
  | file (fault : FileFault)
  /-- The path holds a character that no path can hold. -/
  | badPath
  /-- The bytes are no text. -/
  | undecodable
  deriving Repr, DecidableEq

/-- A text with every kind of line end turned into a line feed. -/
def unifyLineEnds : List Char → List Char
  | '\r' :: '\n' :: rest => '\n' :: unifyLineEnds rest
  | '\r' :: rest => '\n' :: unifyLineEnds rest
  | c :: rest => c :: unifyLineEnds rest
  | [] => []

/-- The text at a path. -/
def readText (source : FileSource) (p : Path) : Except ReadingFault (List Char) :=
  if p.text.contains '\x00' then .error .badPath
  else
    match source p with
    | .error fault => .error (.file fault)
    | .ok bytes =>
      match Text.decodeUtf8? bytes with
      | some s => .ok (unifyLineEnds s)
      | none => .error .undecodable

/-- No carriage return is left. -/
theorem return_not_mem_unifyLineEnds (s : List Char) : '\r' ∉ unifyLineEnds s := by
  fun_induction unifyLineEnds s <;> simp_all [eq_comm]

end Cascade
