import Cascade.Rule.Action

/-!
# Reading rule files

A rule begins at a line with the word `rule` and goes on to the next such line. Lines before the
first rule belong to none: an error in strict mode, skipped with a notice otherwise. Within a rule
the conditions begin at the line with the word `when` and the actions at the one with the word
`then`; each clause may run over several lines, which are joined by spaces.

`readRules` is the reader. Every rule line yields one rule (`length_readBlocks`), in order.
-/

namespace Cascade

/-- A rule line with the lines up to the next one. -/
structure Block where
  header : SourceLine
  body : List SourceLine
  deriving Repr, DecidableEq

/-- The lines before the first rule line, and a block per rule line. -/
def splitBlocks : List SourceLine → List SourceLine × List Block
  | [] => ([], [])
  | line :: rest =>
    let (stray, blocks) := splitBlocks rest
    if isRuleLine line.text then ([], ⟨line, stray⟩ :: blocks) else (line :: stray, blocks)

/-- The texts of clause lines joined by spaces, without blanks at either end. -/
def joinClause (first : List Char) (more : List SourceLine) : List Char :=
  Text.trim (Text.joinWith [' '] (first :: more.map SourceLine.text))

/-- A rule name between the quotes of a header that has nothing behind its colon. -/
def ruleName? (line : List Char) : Option (List Char) :=
  match readHeader line with
  | some (name, rest) => if rest.all Text.isBlank then some name else none
  | none => none

/-- Rejects a line. -/
def rejectLine {α : Type} (fault : SyntaxFault) (line : SourceLine) : Read α :=
  .fail (.rejected ⟨fault, line.number, String.ofList line.text⟩)

/-- The rule of a block. When a clause is missing at its end, the error shows the line that follows
it (`next`) or else its own last line. -/
def readBlock (strict : Bool) (next : Option SourceLine) (block : Block) : Read Rule :=
  match ruleName? block.header.text with
  | none => rejectLine .invalidHeader block.header
  | some name =>
    let name := String.ofList name
    match block.body with
    | [] => rejectLine (.expectedWhen name) (next.getD block.header)
    | whenLine :: lines =>
      match clause? "when" whenLine.text with
      | none => rejectLine (.expectedWhen name) whenLine
      | some firstCondition =>
        let isThen (line : SourceLine) : Bool := (clause? "then" line.text).isSome
        let conditionLines := lines.takeWhile fun line => !isThen line
        match lines.dropWhile fun line => !isThen line with
        | [] =>
          rejectLine (.expectedThen name) (next.getD (lines.getLast?.getD whenLine))
        | thenLine :: actionLines => do
          let conditions := joinClause firstCondition conditionLines
          let guards ← readConditions ⟨strict, whenLine.number⟩ conditions
          if guards.isEmpty then rejectLine (.noConditions name) whenLine
          else
            let firstAction := (clause? "then" thenLine.text).getD []
            let actions ← readActions ⟨strict, thenLine.number⟩ (joinClause firstAction actionLines)
            if actions.isEmpty then rejectLine (.noActions name) thenLine
            else return { name, guards, actions }

/-- The rules of blocks, in order. -/
def readBlocks (strict : Bool) : List Block → Read (List Rule)
  | [] => pure []
  | block :: blocks => do
    let rule ← readBlock strict (blocks.head?.map Block.header) block
    let rules ← readBlocks strict blocks
    return rule :: rules

/-- Deals with lines that belong to no rule. -/
def skipStray (strict : Bool) : List SourceLine → Read Unit
  | [] => pure ()
  | line :: rest =>
    if strict then rejectLine .expectedHeader line
    else do
      Logged.note (.skippedLine line.number (String.ofList line.text))
      skipStray strict rest

/-- The rules of the lines that count. -/
def readLines (strict : Bool) (lines : List SourceLine) : Read (List Rule) :=
  let (stray, blocks) := splitBlocks lines
  do
    skipStray strict stray
    readBlocks strict blocks

/-- The rules of a text, in order. -/
def readRules (strict : Bool) (text : String) : Read (List Rule) :=
  readLines strict (significantLines text.toList)

/-- Each block gives one rule. -/
theorem length_readBlocks {strict : Bool} {blocks : List Block} {rules : List Rule}
    (h : (readBlocks strict blocks).result = .ok rules) : rules.length = blocks.length := by
  induction blocks generalizing rules with
  | nil =>
    simp only [readBlocks, Logged.result_pure, Except.ok.injEq] at h
    simp [← h]
  | cons block blocks ih =>
    simp only [readBlocks, Logged.result_bind] at h
    cases hb : (readBlock strict (blocks.head?.map Block.header) block).result with
    | error e => simp [hb, Except.bind] at h
    | ok rule =>
      cases hr : (readBlocks strict blocks).result with
      | error e => simp [hb, hr, Except.bind] at h
      | ok rs =>
        simp only [hb, hr, Except.bind, Logged.result_pure, Except.ok.injEq] at h
        simp [← h, ih hr]

end Cascade
