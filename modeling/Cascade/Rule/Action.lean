import Cascade.Rule.Operand

/-!
# Reading actions

An action is a keyword, options if the word `with` follows, and a body. The body of `set` is a
target and a value around the first equals sign at top level; those of `add` and `remove` are a
literal, the word `to` or `from`, and a target. The target has to be a field.
-/

namespace Cascade

/-- A line that follows white space; the white space takes as much as it can. -/
def blanksThenLine? : List Char → Option (List Char)
  | [] => none
  | c :: rest =>
    if Text.isBlank c then (blanksThenLine? rest).or (soleLine? rest) else none

/-- The keyword at the start of an action and the text behind it. -/
def actionHead? (text : List Char) : Option (ActionKind × List Char) :=
  ActionKind.all.findSome? fun kind => (clause? kind.word text).map fun rest => (kind, rest)

/-- The options by name. -/
def optionWords : List String := ["notifications", "suppressNotifications", "bypassRules"]

/-- The option at the start of a text, and the text behind it and its separators. -/
def optionWord? (text : List Char) : Option (String × List Char) :=
  optionWords.findSome? fun word =>
    match Text.after? word.toList text with
    | some rest =>
      if endsWord rest then some (word, rest.dropWhile fun c => Text.isBlank c || c = ',')
      else none
    | none => none

/-- The options with one more taken into account. -/
def Options.take (o : Options) (word : String) : Options :=
  if word = "notifications" then { o with suppressNotifications := some false }
  else if word = "suppressNotifications" then { o with suppressNotifications := some true }
  else { o with bypassRules := some true }

/-- The options at the start of a text and the text behind them; the options must be fewer than the
fuel. -/
def takeOptions (o : Options) : (fuel : Nat) → List Char → Options × List Char
  | 0, text => (o, text)
  | fuel + 1, text =>
    match optionWord? text with
    | some (word, rest) => takeOptions (o.take word) fuel rest
    | none => (o, text)

/-- The options of an action, and its body. -/
def readOptions (r : Reading) (action body : List Char) : Read (Options × List Char) :=
  match Text.after? "with".toList body with
  | some (c :: rest) =>
    if Text.isBlank c then
      let rest := Text.trimStart rest
      if (optionWord? rest).isSome then pure (takeOptions {} rest.length rest)
      else r.reject .missingOption action
    else pure ({}, body)
  | _ => pure ({}, body)

/-- The text before and behind the first equals sign at top level. -/
def cutEquals? (n : Nesting) : List Char → Option (List Char × List Char)
  | [] => none
  | c :: rest =>
    if n.isTopLevel c && c = '=' then some ([], rest)
    else (cutEquals? (n.step c) rest).map fun (before, after) => (c :: before, after)

/-- The literal and the target of an `add` or `remove`, which a word joins. -/
def cutTagBody? (word : String) (body : List Char) : Option (List Char × List Char) :=
  match body with
  | '"' :: rest =>
    let value := rest.takeWhile (· ≠ '"')
    match rest.dropWhile (· ≠ '"') with
    | '"' :: c :: rest =>
      if value.isEmpty || !Text.isBlank c then none
      else
        match Text.after? word.toList (Text.trimStart rest) with
        | some rest => (blanksThenLine? rest).map fun target => (value, Text.trim target)
        | none => none
    | _ => none
  | _ => none

/-- The value of an action and the text of its target; nothing when the body fits no grammar. -/
def readBody (r : Reading) (kind : ActionKind) (body : List Char) :
    Read (Option (Operand × List Char)) :=
  match kind with
  | .set =>
    match cutEquals? .outside body with
    | none => pure none
    | some (target, value) =>
      let target := Text.trim target
      let value := Text.trim value
      if target.isEmpty || value.isEmpty then pure none
      else do
        let value ← readOperand r value
        return some (value, target)
  | .add => pure <| (cutTagBody? "to" body).map fun (v, t) => (.literal (String.ofList v), t)
  | .remove => pure <| (cutTagBody? "from" body).map fun (v, t) => (.literal (String.ofList v), t)

/-- The action a text writes, if it has the form of one. -/
def readAction (r : Reading) (text : List Char) : Read (Option Action) :=
  match actionHead? text with
  | none => pure none
  | some (kind, rest) => do
    let (options, body) ← readOptions r text rest
    match ← readBody r kind body with
    | none => return none
    | some (value, target) =>
      match ← readOperand r target with
      | .field target => return some { kind, target, value, options }
      | .literal _ => r.reject (.literalTarget kind) text

/-- The actions a text writes. -/
def readActions (r : Reading) (text : List Char) : Read (List Action) :=
  r.readPieces .action (readAction r) (splitActions text)

end Cascade
