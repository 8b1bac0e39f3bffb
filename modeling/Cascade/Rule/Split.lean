import Cascade.Rule.Basic
import Cascade.Rule.Nesting
import Cascade.Text.Blank
import Cascade.Text.Search

/-!
# Cutting clauses into pieces

A list of conditions is cut at the word `and`, a list of actions before each action keyword, and a
line with both clauses of a rule before the word `then`. Every cut is at top level. The cutters give
the pieces as they stand, so that nothing is lost (`flatten_cutActions`,
`joinWith_cutConditions`); the splitters trim the pieces and drop empty ones.
-/

namespace Cascade

/-- The pieces with a character put in front of the first one. -/
def consFirst (c : Char) : List (List Char) → List (List Char)
  | [] => [[c]]
  | piece :: pieces => (c :: piece) :: pieces

theorem consFirst_ne_nil (c : Char) (pieces : List (List Char)) : consFirst c pieces ≠ [] := by
  cases pieces <;> simp [consFirst]

theorem flatten_consFirst (c : Char) (pieces : List (List Char)) :
    (consFirst c pieces).flatten = c :: pieces.flatten := by
  cases pieces <;> simp [consFirst]

theorem joinWith_consFirst (sep : List Char) (c : Char) (pieces : List (List Char)) :
    Text.joinWith sep (consFirst c pieces) = c :: Text.joinWith sep pieces := by
  cases pieces with
  | nil => rfl
  | cons piece more => cases more <;> simp [consFirst, Text.joinWith]

/-- The separator of conditions. -/
def conjunction : List Char := " and ".toList

/-- The pieces of a text between the conjunctions at top level; `skip` characters, the rest of a
conjunction, belong to no piece. -/
def cutConditions (n : Nesting) (skip : Nat) : List Char → List (List Char)
  | [] => [[]]
  | c :: rest =>
    match skip with
    | skip + 1 => cutConditions n skip rest
    | 0 =>
      if n.isTopLevel c && conjunction.isPrefixOf (c :: rest) then
        [] :: cutConditions n 4 rest
      else consFirst c (cutConditions (n.step c) 0 rest)

/-- Whether an action begins here: a keyword with a space or nothing behind it. -/
def startsAction (text : List Char) : Bool :=
  ActionKind.all.any fun kind =>
    match Text.after? kind.word.toList text with
    | some rest => rest.isEmpty || rest.head? == some ' '
    | none => false

/-- The pieces of a text that begin with an action keyword at top level behind a space; the first
piece is what stands before them. `last` is the character before the text. -/
def cutActions (n : Nesting) (last : Option Char) : List Char → List (List Char)
  | [] => [[]]
  | c :: rest =>
    let pieces := consFirst c (cutActions (n.step c) (some c) rest)
    if n.isTopLevel c && last == some ' ' && startsAction (c :: rest) then [] :: pieces
    else pieces

/-- The pieces, trimmed, that are not empty. -/
def trimPieces (pieces : List (List Char)) : List (List Char) :=
  (pieces.map Text.trim).filter (!·.isEmpty)

/-- The conditions of a text. -/
def splitConditions (text : List Char) : List (List Char) :=
  trimPieces (cutConditions .outside 0 text)

/-- The actions of a text. -/
def splitActions (text : List Char) : List (List Char) :=
  trimPieces (cutActions .outside none text)

/-- Whether the then-clause begins here. -/
def startsThen (text : List Char) : Bool :=
  match Text.after? "then".toList text with
  | some (c :: _) => Text.isBlank c
  | _ => false

/-- The text before and from the then-clause that begins at top level behind a space. -/
def cutThen? (n : Nesting) (last : Option Char) : List Char → Option (List Char × List Char)
  | [] => none
  | c :: rest =>
    if n.isTopLevel c && last == some ' ' && startsThen (c :: rest) then some ([], c :: rest)
    else
      (cutThen? (n.step c) (some c) rest).map fun (before, clause) => (c :: before, clause)

/-- A line cut before its then-clause, if there is one behind something else. -/
def splitThen (line : List Char) : List (List Char) :=
  match cutThen? .outside none line with
  | some (before, clause) => [Text.trim before, clause]
  | none => [line]

theorem cutConditions_ne_nil (n : Nesting) (skip : Nat) (text : List Char) :
    cutConditions n skip text ≠ [] := by
  induction text generalizing n skip with
  | nil => simp [cutConditions]
  | cons c rest ih =>
    cases skip with
    | succ skip => exact ih n skip
    | zero =>
      simp only [cutConditions]
      split
      · exact List.cons_ne_nil _ _
      · exact consFirst_ne_nil _ _

/-- A conjunction and what its last four characters leave of the text behind the first. -/
theorem eq_conjunction_append_drop {c : Char} {rest : List Char}
    (h : conjunction.isPrefixOf (c :: rest) = true) :
    c :: rest = conjunction ++ rest.drop 4 := by
  obtain ⟨tail, ht⟩ := List.isPrefixOf_iff_prefix.1 h
  have hc : conjunction = [' ', 'a', 'n', 'd', ' '] := by decide
  rw [hc] at ht ⊢
  simp only [List.cons_append, List.nil_append, List.cons.injEq] at ht
  obtain ⟨rfl, rfl⟩ := ht
  rfl

/-- Only conjunctions are lost when conditions are cut. -/
theorem joinWith_cutConditions (n : Nesting) (skip : Nat) (text : List Char) :
    Text.joinWith conjunction (cutConditions n skip text) = text.drop skip := by
  induction text generalizing n skip with
  | nil => simp [cutConditions, Text.joinWith]
  | cons c rest ih =>
    cases skip with
    | succ skip => exact ih n skip
    | zero =>
      simp only [cutConditions, List.drop_zero]
      split
      · next h =>
        obtain ⟨piece, more, hp⟩ := List.exists_cons_of_ne_nil (cutConditions_ne_nil n 4 rest)
        have := ih n 4
        rw [hp] at this ⊢
        simp only [Text.joinWith, List.nil_append, this]
        exact (eq_conjunction_append_drop (by simpa using (Bool.and_eq_true_iff.1 h).2)).symm
      · simpa [joinWith_consFirst] using ih (n.step c) 0

/-- No character is lost when actions are cut. -/
theorem flatten_cutActions (n : Nesting) (last : Option Char) (text : List Char) :
    (cutActions n last text).flatten = text := by
  induction text generalizing n last with
  | nil => rfl
  | cons c rest ih =>
    simp only [cutActions]
    split <;> simp [flatten_consFirst, ih]

end Cascade
