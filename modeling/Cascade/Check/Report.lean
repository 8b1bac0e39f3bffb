import Cascade.Check.Arguments
import Cascade.Files.Folder
import Cascade.Json.Writer
import Cascade.Rule.Dump
import Cascade.Rule.Reader

/-!
# Checking rule files

Every file is read and judged: it cannot be read, its rules are rejected, or they are accepted. The
report has a few lines per file and a summary; instead of lines about accepted files it can hold
their rules as one JSON document. A file that is no text, or whose patterns go beyond all bounds,
ends the check where it is.
-/

namespace Cascade

/-- The judgement on a file. -/
inductive Verdict where
  | unreadable (fault : FileFault)
  | rejected (error : SyntaxError)
  | accepted (rules : List Rule)
  deriving Inhabited

/-- What ends a check without a judgement. -/
inductive CheckBreak where
  | badPath
  | undecodable
  | refusedPattern (refusal : Pattern.Refusal)
  deriving Repr, DecidableEq

namespace Verdict

/-- Whether the file counts as one with errors. -/
def isFailure : Verdict → Bool
  | .accepted _ => false
  | _ => true

/-- A rule in the report. -/
def ruleLine (r : Rule) : String :=
  s!"   - {r.name}: {r.guards.length} condition(s), {r.actions.length} action(s)"

/-- The lines on a file. -/
def lines (p : Path) (asJson : Bool) : Verdict → List String
  | .unreadable fault =>
    let quoted := String.ofList (Text.ofChars p.text).quoted
    [s!"❌ {String.ofList p.text}: cannot read file ([Errno {fault.number}] {fault.word}: {quoted})"]
  | .rejected error => [s!"❌ {String.ofList p.text}: {error.message}"]
  | .accepted rules =>
    if asJson then []
    else s!"✅ {String.ofList p.text}: {rules.length} rule(s)" :: rules.map ruleLine

/-- The rules of a file under its path, if they are accepted. -/
def entry? (p : Path) : Verdict → Option (Text × Value)
  | .accepted rules => some (String.ofList p.text, .list (rules.map Rule.toValue))
  | _ => none

end Verdict

/-- The judgement on the file at a path. -/
def judge (source : FileSource) (lenient : Bool) (p : Path) : Except CheckBreak Verdict :=
  match readText source p with
  | .error (.file fault) => .ok (.unreadable fault)
  | .error .badPath => .error .badPath
  | .error .undecodable => .error .undecodable
  | .ok text =>
    match (readRules (!lenient) (String.ofList text)).result with
    | .ok rules => .ok (.accepted rules)
    | .error (.rejected error) => .ok (.rejected error)
    | .error (.refusedPattern refusal) => .error (.refusedPattern refusal)

/-- Files with their judgements, up to the first one that ends the check. -/
def judgeAll (source : FileSource) (lenient : Bool) :
    List Path → List (Path × Verdict) × Option CheckBreak
  | [] => ([], none)
  | p :: rest =>
    match judge source lenient p with
    | .error e => ([], some e)
    | .ok verdict =>
      let (verdicts, ending) := judgeAll source lenient rest
      ((p, verdict) :: verdicts, ending)

/-- A report. -/
structure CheckReport where
  lines : List String
  /-- The exit code, or what ended the check. -/
  ending : Except CheckBreak Nat

namespace CheckReport

/-- The last lines of a report. -/
def summary (asJson : Bool) (verdicts : List (Path × Verdict)) : List String :=
  if asJson then
    let entries := verdicts.filterMap fun (p, verdict) => verdict.entry? p
    [(Json.indented (.object (Entries.ofBindings entries))).shown]
  else
    let failures := (verdicts.filter fun (_, verdict) => verdict.isFailure).length
    ["", s!"Validation complete: {failures} file(s) with errors"]

/-- The report on what was asked for. -/
def ofRequest (source : FileSource) (request : CheckRequest) : CheckReport :=
  let (verdicts, ending) := judgeAll source request.lenient request.files
  let lines := verdicts.flatMap fun (p, verdict) => verdict.lines p request.asJson
  match ending with
  | some e => ⟨lines, .error e⟩
  | none =>
    let hasFailure := verdicts.any fun (_, verdict) => verdict.isFailure
    ⟨lines ++ summary request.asJson verdicts, .ok (if hasFailure then 1 else 0)⟩

/-- The report as it is printed. -/
def output (r : CheckReport) : String := String.join (r.lines.map (· ++ "\n"))

end CheckReport

end Cascade
