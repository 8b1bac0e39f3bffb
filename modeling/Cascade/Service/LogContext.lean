import Cascade.Engine.Run
import Cascade.Rule.SyntaxError

/-!
# Log events

A notice is written to the log as an event: its name, and what it is about. Events that belong
together bear the same marks: the request that is served, the work item it is about, and the rule
that was executed for it. Marks stay until they are replaced or all are cleared. An event also names
the service, which is the first part of the name of its logger.

An event that is marked already gets the marks of the context instead (`get?_mark_requestId`).
-/

namespace Cascade

/-- The marks of log events. -/
structure LogContext where
  requestId : Option String := none
  workItemId : Option Int := none
  ruleName : Option String := none
  deriving Repr, DecidableEq, Inhabited

/-- A notice as a log event. -/
def Notice.toEvent : Notice → Entries
  | .skippedLine number line =>
    [("event", .str "Skipping text outside of a rule"), ("line_number", .int number),
      ("line", .str line)]
  | .droppedText clause number text =>
    [("event", .str ("Dropping unrecognised " ++ clause.word)), ("line_number", .int number),
      ("text", .str text)]
  | .unusablePattern pattern reason =>
    [("event", .str "Invalid regular expression in field value"), ("pattern", .str pattern),
      ("error", .str reason)]
  | .removalOutsideTags field =>
    [("event", .str "Remove is only supported for tags"), ("field", .str field)]

namespace LogContext

/-- The context of a request. -/
def setRequest (c : LogContext) (id : String) : LogContext := { c with requestId := some id }

/-- The context with a work item and a rule, as far as they are given. An empty name is none. -/
def setWorkItem (c : LogContext) (id : Option Int) (rule : Option String) : LogContext :=
  { c with
    workItemId := id.or c.workItemId
    ruleName := (rule.filter (!·.isEmpty)).or c.ruleName }

/-- The context after running rules on an item: it names the rule that was executed. -/
def ofRun (c : LogContext) (trigger : WorkItem) (r : RunResult) : LogContext :=
  match r.ruleName with
  | some name => c.setWorkItem (some trigger.id) (some name)
  | none => c

/-- The marks by name. Empty texts mark nothing. -/
def marks (c : LogContext) : Entries :=
  let itemMark : Entries := c.workItemId.toList.map fun id => ("work_item_id", .int id)
  textMark "request_id" c.requestId ++ itemMark ++ textMark "rule_name" c.ruleName
where
  /-- A mark that is a text. -/
  textMark (name : String) (t : Option String) : Entries :=
    (t.filter (!·.isEmpty)).toList.map fun (t : String) => (name, .str t)

/-- An event with the marks of a context. -/
def mark (c : LogContext) (event : Entries) : Entries :=
  c.marks.foldl (fun event (name, value) => event.put name value) event

/-- The service that a logger belongs to: what stands before the first point of its name. -/
def serviceOf? (logger : Text) : Option Text :=
  if logger.letters.contains (.char '.') then
    some ⟨logger.letters.takeWhile (· ≠ .char '.')⟩
  else none

/-- An event with the service of its logger. -/
def nameService (event : Entries) : Entries :=
  match (event.get? "logger").bind Value.str? |>.bind serviceOf? with
  | some service => event.put "service" (.str service)
  | none => event

/-- The marks of the work item and of the rule do not touch the mark of the request. -/
theorem get?_mark_requestId (c : LogContext) {id : String} (h : c.requestId = some id)
    (he : id.isEmpty = false) (event : Entries) :
    (c.mark event).get? "request_id" = some (.str id) := by
  obtain ⟨r, w, n⟩ := c
  subst h
  have put_ne {e : Entries} {k : String} (hk : "request_id" ≠ k) (v : Value) :
      (e.put k v).get? "request_id" = e.get? "request_id" :=
    Entries.get?_put_of_ne e (by simpa using hk) v
  cases w <;> cases hn : n.filter (!·.isEmpty) <;>
    simp [mark, marks, marks.textMark, Option.filter_some, he, hn, put_ne, Entries.get?_put_self]

end LogContext

end Cascade
