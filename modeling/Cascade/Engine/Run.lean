import Cascade.Engine.Execution

/-!
# Running rules

Of a list of rules the first one whose guards all hold is executed; the rules after it are not
looked at. `runRules` gives the name of that rule and its operations. It tries guards and executes
actions itself; `Rule.holdsIn` and `Rule.execute` do either for a rule by itself, and
`runRules_cons` says that they are what a run does at each rule.
-/

namespace Cascade

/-- The outcome of running rules. -/
structure RunResult where
  /-- The rule that was executed. -/
  ruleName : Option String := none
  operations : List UpdateOperation := []
  deriving Repr, DecidableEq, Inhabited

namespace RunResult

/-- Whether some rule was executed. -/
def matched (r : RunResult) : Bool := r.ruleName.isSome

end RunResult

/-- Whether the guards of a rule all hold. -/
def Rule.holdsIn (ctx : Context) (rule : Rule) : Eval Bool := allHold ctx rule.guards

/-- The operations of the actions of a rule. -/
def Rule.execute (ctx : Context) (rule : Rule) : Eval (List UpdateOperation) :=
  executeAll ctx rule.actions

/-- The identifier of the triggering item, by which a run is reported. -/
def triggerId (ctx : Context) : Eval Int := do
  let item ← presentItem .id ctx.triggering
  return item.id

/-- Runs rules in a context. -/
def runRules (ctx : Context) : List Rule → Eval RunResult
  | [] => do
    discard (triggerId ctx)
    return {}
  | rule :: rest => do
    if ← allHold ctx rule.guards then
      discard (triggerId ctx)
      let operations ← executeAll ctx rule.actions
      return { ruleName := some rule.name, operations }
    else runRules ctx rest

/-- A run asks the first rule and executes it, or goes on with the others. -/
theorem runRules_cons (ctx : Context) (rule : Rule) (rest : List Rule) :
    runRules ctx (rule :: rest) = (do
      if ← rule.holdsIn ctx then
        discard (triggerId ctx)
        let operations ← rule.execute ctx
        return { ruleName := some rule.name, operations }
      else runRules ctx rest) :=
  rfl

end Cascade
