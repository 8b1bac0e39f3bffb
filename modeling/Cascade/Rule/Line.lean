import Cascade.Rule.Split
import Cascade.Text.Line
import Cascade.Text.Word

/-!
# The lines of a rule file

Rules are read line by line. Blank lines and comments do not count. A header with its clauses on the
same line, and a then-clause that shares a line with the conditions, count as lines of their own
with the number of the line they stand on.
-/

namespace Cascade

/-- A line with its number in the file, counted from one. -/
structure SourceLine where
  number : Nat
  text : List Char
  deriving Repr, DecidableEq, Inhabited

/-- A rule header at the start of a line: the name, and the text behind the colon. -/
def readHeader (line : List Char) : Option (List Char × List Char) :=
  match Text.after? "rule".toList line with
  | some (c :: rest) =>
    if Text.isBlank c then
      match Text.trimStart rest with
      | '"' :: rest =>
        let name := rest.takeWhile (· ≠ '"')
        match rest.dropWhile (· ≠ '"') with
        | '"' :: ':' :: rest => if name.isEmpty then none else some (name, rest)
        | _ => none
      | _ => none
    else none
  | _ => none

/-- Whether a line begins with the word `rule`. -/
def isRuleLine (line : List Char) : Bool :=
  match Text.after? "rule".toList line with
  | some rest => !(rest.head?.map Text.isWord).getD false
  | none => false

/-- What stands behind a keyword that opens a line. -/
def clause? (keyword : String) (line : List Char) : Option (List Char) :=
  match Text.after? keyword.toList line with
  | some [] => some []
  | some (c :: rest) => if Text.isBlank c then some (Text.trimStart rest) else none
  | none => none

/-- A trimmed line cut into header, conditions and then-clause. -/
def cutLine (line : List Char) : List (List Char) :=
  let pieces :=
    match readHeader line with
    | some (_, rest) =>
      let clauses := Text.trimStart rest
      if clauses.isEmpty then splitThen line
      else line.take (line.length - rest.length) :: splitThen clauses
    | none => splitThen line
  pieces.filter (!·.isEmpty)

/-- The lines that a physical line counts for. -/
def linesOf (number : Nat) (physical : List Char) : List SourceLine :=
  let line := Text.trim physical
  if line.isEmpty || line.head? == some '#' then []
  else (cutLine line).map (SourceLine.mk number)

/-- The lines that count, from physical lines of which the first has a number. -/
def significantLinesFrom (number : Nat) : List (List Char) → List SourceLine
  | [] => []
  | line :: rest => linesOf number line ++ significantLinesFrom (number + 1) rest

/-- The lines of a rule file that count. -/
def significantLines (text : List Char) : List SourceLine :=
  significantLinesFrom 1 (Text.lines text)

end Cascade
