import Cascade.Pattern.Escape

/-!
# Reading patterns

A recursive descent over the tokens of a pattern: alternatives, sequences, one item after another
with the quantifier behind it. Faults are reported in the order in which a reader moving from left
to right finds them; what concerns the pattern as a whole (groups asked about that never come,
look-behinds of variable width) is checked when all of it has been read.

`Pattern.Node.read` is the reader. Its recursion is bounded by the length of the text, since every
round consumes a token.
-/

namespace Cascade.Pattern

/-- Repetition counts have to stay below this bound. -/
def repetitionBound : Nat := 4294967295

/-- Widths are not told apart from this one on. -/
def widthBound : Nat := Nat.pow 2 64

/-- Group numbers have to stay below this bound. -/
def groupBound : Nat := 1073741823

mutual

/-- The least and the greatest number of characters a part can match. -/
def Node.width (groups : List (Option Width)) : Node → Width
  | .one _ => ⟨1, 1⟩
  | .anchor _ => ⟨0, 0⟩
  | .sequence parts => sumWidths groups parts
  | .choice alternatives => rangeWidths groups alternatives
  | .repeated _ least most body =>
    let w := body.width groups
    let greatest :=
      match most with
      | some n => w.most * n
      | none => if w.most = 0 then 0 else widthBound
    ⟨min (w.least * least) widthBound, min greatest widthBound⟩
  | .capture _ body => body.width groups
  | .atomic body => body.width groups
  | .look _ _ _ _ => ⟨0, 0⟩
  | .recall group _ => ((groups[group - 1]?).join).getD ⟨0, 0⟩
  | .ifCaptured _ yes no =>
    let y := yes.width groups
    let n := no.width groups
    ⟨min y.least n.least, max y.most n.most⟩

/-- The width of parts one after another. -/
def sumWidths (groups : List (Option Width)) : List Node → Width
  | [] => ⟨0, 0⟩
  | part :: rest =>
    let w := part.width groups
    let s := sumWidths groups rest
    ⟨min (w.least + s.least) widthBound, min (w.most + s.most) widthBound⟩

/-- The width of parts of which one is matched. -/
def rangeWidths (groups : List (Option Width)) : List Node → Width
  | [] => ⟨widthBound, 0⟩
  | part :: rest =>
    let w := part.width groups
    let s := rangeWidths groups rest
    ⟨min w.least s.least, max w.most s.most⟩

end

mutual

/-- The first fault that shows when a whole pattern is looked through. -/
def Node.lateFault? (groups : List (Option Width)) (template : Bool) : Node → Option Fault
  | .one _ | .anchor _ | .recall _ _ => none
  | .sequence parts => lateFaultIn? groups template parts
  | .choice alternatives => lateFaultIn? groups template alternatives
  | .repeated kind _ _ body =>
    if template then
      let name :=
        match kind with
        | .greedy => "MAX_REPEAT"
        | .lazy => "MIN_REPEAT"
        | .possessive => "POSSESSIVE_REPEAT"
      some (.malformed ("internal: unsupported template operator " ++ name) none)
    else body.lateFault? groups template
  | .capture _ body => body.lateFault? groups template
  | .atomic body => body.lateFault? groups template
  | .look ahead _ _ body =>
    let w := body.width groups
    if !ahead && w.least > repetitionBound then
      some (.malformed "looks too much behind" none)
    else if !ahead && w.least ≠ w.most then
      some (.malformed "look-behind requires fixed-width pattern" none)
    else body.lateFault? groups template
  | .ifCaptured _ yes no =>
    (yes.lateFault? groups template).or (no.lateFault? groups template)

/-- The first late fault of several parts. -/
def lateFaultIn? (groups : List (Option Width)) (template : Bool) : List Node → Option Fault
  | [] => none
  | part :: rest => (part.lateFault? groups template).or (lateFaultIn? groups template rest)

end

/-- What an escape outside a set stands for. -/
def Escape.node (modes : Modes) : Escape → Node
  | .char point => .one (.just point modes.folding)
  | .named cls negated =>
    .one { items := [.named cls modes.ascii negated], folding := modes.folding }
  | .anchor place => .anchor place
  | .group index => .recall index modes.folding

/-- What an escape inside a set stands for. -/
def Escape.setItem (modes : Modes) : Escape → SetItem
  | .named cls negated => .named cls modes.ascii negated
  | .char point => .single point
  | _ => .single 0

/-- One end of a range in a set, or an item by itself: its token has been consumed. -/
def readSetItem (modes : Modes) (token : Token) : ReadM SetItem := do
  match token with
  | [.char '\\', l] => return (← readSetEscape l).setItem modes
  | l :: _ => return .single l.point
  | [] => return .single 0

/-- The items of a set up to its closing bracket. A bracket that comes first is an item. -/
def readSetItems (modes : Modes) (start : Nat) (items : List SetItem) :
    (fuel : Nat) → ReadM (List SetItem)
  | 0 => failAt "unterminated character set"
  | fuel + 1 => do
    let unterminated : ReadM (List SetItem) :=
      throw (.malformed "unterminated character set" (some start))
    match ← next with
    | none => unterminated
    | some token =>
      if token == [.char ']'] && !items.isEmpty then return items
      else
        let first ← readSetItem modes token
        if ← accept '-' then
          match ← next with
          | none => unterminated
          | some token' =>
            if token' == [.char ']'] then return items ++ [first, .single '-'.toNat]
            else
              let second ← readSetItem modes token'
              let badRange : ReadM (List SetItem) :=
                failAt ("bad character range " ++ ⟨token ++ .char '-' :: token'⟩)
                  (token.length + 1 + token'.length)
              match first, second with
              | .single low, .single high =>
                if high < low then badRange
                else readSetItems modes start (items ++ [.range low high]) fuel
              | _, _ => badRange
        else readSetItems modes start (items ++ [first]) fuel

/-- A set whose opening bracket, at `start`, has been consumed. -/
def readSet (modes : Modes) (start : Nat) : ReadM Node := do
  let negated ← accept '^'
  let items ← readSetItems modes start [] ((← get).rest.length + 1)
  return .one { negated, items, folding := modes.folding }

/-- The most digits a count may have. -/
def maxCountDigits : Nat := 4300

/-- The count that digits write. -/
def readCount (digits : List Char) : ReadM Nat :=
  if maxCountDigits < digits.length then throw (.refused .tooManyDigits)
  else if digitsValue digits ≥ repetitionBound then throw (.refused .repetitionTooLarge)
  else pure (digitsValue digits)

/-- The least and greatest count of a quantifier whose first character has been consumed, or nothing
if a brace turns out to open no quantifier; then no more than the brace is consumed. -/
def readCounts (c : Char) : ReadM (Option (Nat × Option Nat)) := do
  match c with
  | '?' => return some (0, some 1)
  | '*' => return some (0, none)
  | '+' => return some (1, none)
  | _ =>
    let here := (← get).position
    let rest := (← get).rest
    if rest.head? == some (.char '\x7d') then return none
    let low ← acceptWhile rest.length Char.isDigit
    let hasComma ← accept ','
    let high ← if hasComma then acceptWhile rest.length Char.isDigit else pure low
    let isClosed ← accept '\x7d'
    if !isClosed then
      seek here rest
      return none
    let least ← readCount low
    if high.isEmpty then return some (least, none)
    let most ← readCount high
    if most < least then
      throw (.malformed "min repeat greater than max repeat" (some here))
    return some (least, some most)

/-- The mark behind a quantifier. -/
def readKind : ReadM RepeatKind := do
  if ← accept '?' then return .lazy
  if ← accept '+' then return .possessive
  return .greedy

/-- The items of a sequence, last one first, after the quantifier that begins with `c` has been
applied to the last of them. -/
def readQuantifier (modes : Modes) (c : Char) (items : List Node) : ReadM (List Node) := do
  let here := (← get).position
  match ← readCounts c with
  | none => return .one (.just c.toNat modes.folding) :: items
  | some (least, most) =>
    let fail (reason : String) : ReadM (List Node) :=
      throw (.malformed reason (some (here - 1)))
    match items with
    | [] => fail "nothing to repeat"
    | .anchor _ :: _ => fail "nothing to repeat"
    | .repeated _ _ _ _ :: _ => fail "multiple repeat"
    | item :: before =>
      let kind ← readKind
      return .repeated kind least most item :: before

/-- A comment of verbose mode, up to the end of its line. -/
def skipLine : (fuel : Nat) → ReadM Unit
  | 0 => pure ()
  | fuel + 1 => do
    match ← next with
    | none => pure ()
    | some token => if token == [.char '\n'] then pure () else skipLine fuel

/-- A comment group, up to its closing parenthesis; `start` is where it began. -/
def skipComment (start : Nat) : (fuel : Nat) → ReadM Unit
  | 0 => pure ()
  | fuel + 1 => do
    match ← next with
    | none => throw (.malformed "missing ), unterminated comment" (some start))
    | some token => if token == [.char ')'] then pure () else skipComment start fuel

/-- Whether a token is one letter. -/
def isLetterToken (token : Token) : Bool :=
  match token with
  | [.char c] => c != '_' && Text.identifierStartSpans.contains c.toNat
  | _ => false

/-- The mode a token stands for. -/
def modeOfToken? (token : Token) : Option (Char × Modes) :=
  match token with
  | [.char c] => (modeOfLetter? c).map (c, ·)
  | _ => none

/-- Letters that switch modes on, the first of which is `token`, and the token that ends them. -/
def readModesOn (token : Token) (on : Modes) : (fuel : Nat) → ReadM (Modes × Token)
  | 0 => failAt "missing -, : or )"
  | fuel + 1 => do
    match modeOfToken? token with
    | none =>
      failAt (if isLetterToken token then "unknown flag" else "missing -, : or )") token.length
    | some (letter, mode) =>
      if letter == 'L' then
        failAt "bad inline flags: cannot use 'L' flag with a str pattern"
      let on := on.union mode
      if (mode.ascii || mode.unicode) && on.ascii && on.unicode then
        failAt "bad inline flags: flags 'a', 'u' and 'L' are incompatible"
      match ← next with
      | none => failAt "missing -, : or )"
      | some token =>
        if token == [.char ')'] || token == [.char '-'] || token == [.char ':'] then
          return (on, token)
        else readModesOn token on fuel

/-- Letters that switch modes off, the first of which is `token`, up to the colon. -/
def readModesOff (token : Token) (missing : String) (off : Modes) : (fuel : Nat) → ReadM Modes
  | 0 => failAt "missing :"
  | fuel + 1 => do
    match modeOfToken? token with
    | none => failAt (if isLetterToken token then "unknown flag" else missing) token.length
    | some (letter, mode) =>
      if mode.ascii || mode.unicode || letter == 'L' then
        failAt "bad inline flags: cannot turn off flags 'a', 'u' and 'L'"
      let off := off.union mode
      match ← next with
      | none => failAt "missing :"
      | some token =>
        if token == [.char ':'] then return off else readModesOff token "missing :" off fuel

/-- Letters that switch modes off, up to the colon; there must be one. -/
def readModesOffFirst (fuel : Nat) : ReadM Modes := do
  match ← next with
  | none => failAt "missing flag"
  | some token => readModesOff token "missing flag" {} fuel

/-- The modes that a group switches on and off, or that the whole pattern is to have. -/
inductive ModeSwitch where
  | whole (on : Modes)
  | inside (on off : Modes)

/-- A mode switch that begins with the token `token`, already consumed. -/
def readModeSwitch (token : Token) : ReadM ModeSwitch := do
  let fuel := (← get).rest.length + 2
  let (on, stop) ←
    if token == [.char '-'] then pure (({} : Modes), token) else readModesOn token {} fuel
  if stop == [.char ')'] then return .whole on
  if on.template then failAt "bad inline flags: cannot turn on global flag" 1
  let off ← if stop == [.char '-'] then readModesOffFirst fuel else pure {}
  if off.template then failAt "bad inline flags: cannot turn off global flag" 1
  if on.meets off then failAt "bad inline flags: flag turned on and off" 1
  return .inside on off

/-- The number of the group with a name. -/
def groupNamed (name : List Char) : ReadM Nat := do
  match (← get).names.lookup (String.ofList name) with
  | some index => return index
  | none => failName "unknown group name" (name.map .char)

/-- The values of the digits of a whole number, which may be those of any script and among which
single low lines may stand. -/
def decimalValues? : List Char → Option (List Nat)
  | [] => none
  | [c] => (Text.decimalValue? c).map ([·])
  | c :: '_' :: rest => do return (← Text.decimalValue? c) :: (← decimalValues? rest)
  | c :: rest => do return (← Text.decimalValue? c) :: (← decimalValues? rest)

/-- A group number as a condition may write it. -/
def groupNumber? (name : List Char) : Option Nat :=
  let number? (digits : List Char) : Option Nat :=
    ((decimalValues? digits).filter (·.length ≤ maxCountDigits)).map
      (·.foldl (fun n value => n * 10 + value) 0)
  match Text.trim name with
  | '+' :: digits => number? digits
  | '-' :: digits => (number? digits).filter (· = 0)
  | digits => number? digits

/-- The group that a condition asks about. -/
def readCondition : ReadM Nat := do
  let name ← acceptUntil ')' "group name"
  let group ←
    match identifier? name with
    | some name => groupNamed name
    | none =>
      match (Text.chars? ⟨name⟩).bind groupNumber? with
      | none => failName "bad character in group name" name
      | some 0 => failAt "bad group number" (name.length + 1)
      | some group =>
        if group ≥ groupBound then failAt s!"invalid group reference {group}" (name.length + 1)
        let position := (← get).position - (name.length + 1)
        modify fun r =>
          if (r.asked.lookup group).isSome then r
          else { r with asked := r.asked ++ [(group, position)] }
        pure group
  checkLookBehind group
  return group

/-- Opens a group, with a name or without, and gives its number. -/
def openGroup (name : Option (List Char)) : ReadM Nat := do
  let r ← get
  let index := r.groups.length + 1
  match name with
  | none => pure ()
  | some name =>
    match r.names.lookup (String.ofList name) with
    | some other =>
      failAt ("redefinition of group name " ++ Text.ofChars (Text.quoted (.ofChars name)) ++
        s!" as group {index}; was group {other}") (name.length + 1)
    | none => pure ()
  modify fun r =>
    { r with
      groups := r.groups ++ [none]
      names := r.names ++ (name.toList.map fun n => (String.ofList n, index)) }
  return index

/-- Closes a group that has been read. -/
def closeGroup (index : Nat) (body : Node) : ReadM Unit :=
  modify fun r => { r with groups := r.groups.set (index - 1) (some (body.width r.groups)) }

/-- Consumes the parenthesis that closes a group begun at `start`. -/
def closeParen (start : Nat) : ReadM Unit := do
  if ← accept ')' then pure ()
  else throw (.malformed "missing ), unterminated subpattern" (some start))

/-- What a parenthesis has opened. -/
inductive Opened where
  /-- Nothing that matches: a comment. -/
  | nothing
  | switched (modes : Modes)
  | item (node : Node)

/-- Whether a quantifier can begin with a character. -/
def isQuantifierMark (c : Char) : Bool := c == '*' || c == '+' || c == '?' || c == '\x7b'

/-- White space that verbose mode skips. -/
def isVerboseSpace (token : Token) : Bool :=
  [' ', '\t', '\n', '\r', '\x0b', '\x0c'].any fun c => token == [.char c]

mutual

/-- Alternatives; `top` when they are those of the whole pattern. -/
def readChoice (modes : Modes) (top : Bool) : (fuel : Nat) → ReadM Node
  | 0 => failAt "unexpected end of pattern"
  | fuel + 1 => do
    let first ← readSequence modes top [] fuel
    match ← readAlternatives modes top fuel with
    | [] => return first
    | others => return .choice (first :: others)

/-- The alternatives behind the first one. -/
def readAlternatives (modes : Modes) (top : Bool) : (fuel : Nat) → ReadM (List Node)
  | 0 => failAt "unexpected end of pattern"
  | fuel + 1 => do
    if ← accept '|' then
      let whole := (← get).modes
      let modes := if top then whole else modes
      let alternative ← readSequence modes false [] fuel
      return alternative :: (← readAlternatives modes top fuel)
    else return []

/-- The rest of a sequence of which `items` have been read, last one first. At the very start of the
pattern (`first`) the modes of the whole may be switched. -/
def readSequence (modes : Modes) (first : Bool) (items : List Node) : (fuel : Nat) → ReadM Node
  | 0 => failAt "unexpected end of pattern"
  | fuel + 1 => do
    let start := (← get).position
    match ← peek with
    | none => return .sequence items.reverse
    | some token =>
      if token == [.char '|'] || token == [.char ')'] then return .sequence items.reverse
      discard next
      if modes.verbose && isVerboseSpace token then readSequence modes first items fuel
      else if modes.verbose && token == [.char '#'] then
        skipLine ((← get).rest.length + 1)
        readSequence modes first items fuel
      else
        match token with
        | [.char '\\', l] =>
          let escape ← readEscape modes l
          readSequence modes first (escape.node modes :: items) fuel
        | [.char '['] => do
          let set ← readSet modes start
          readSequence modes first (set :: items) fuel
        | [.char '.'] =>
          let excluded := if modes.dotAll then [] else [SetItem.single '\n'.toNat]
          readSequence modes first (.one { negated := true, items := excluded } :: items) fuel
        | [.char '^'] =>
          let place := if modes.multiline then Anchor.lineStart else Anchor.textStart
          readSequence modes first (.anchor place :: items) fuel
        | [.char '$'] =>
          let place := if modes.multiline then Anchor.lineEnd else Anchor.lastLineEnd
          readSequence modes first (.anchor place :: items) fuel
        | [.char '('] =>
          match ← readGroup modes (first && items.isEmpty) start fuel with
          | .nothing => readSequence modes first items fuel
          | .switched modes => readSequence modes first items fuel
          | .item node => readSequence modes first (node :: items) fuel
        | [l] =>
          match l.char?.filter isQuantifierMark with
          | some c =>
            let items ← readQuantifier modes c items
            readSequence modes first items fuel
          | none => readSequence modes first (.one (.just l.point modes.folding) :: items) fuel
        | _ => readSequence modes first items fuel

/-- What the parenthesis at `start`, already consumed, opens. -/
def readGroup (modes : Modes) (first : Bool) (start : Nat) : (fuel : Nat) → ReadM Opened
  | 0 => failAt "unexpected end of pattern"
  | fuel + 1 => do
    let captured (name : Option (List Char)) : ReadM Opened := do
      let index ← openGroup name
      let body ← readChoice modes false fuel
      closeParen start
      closeGroup index body
      return .item (.capture index body)
    let plain (modes : Modes) : ReadM Opened := do
      let body ← readChoice modes false fuel
      closeParen start
      return .item (.sequence [body])
    let look (ahead negated : Bool) : ReadM Opened := do
      let outer := (← get).groupsBefore
      if !ahead && outer.isNone then
        modify fun r => { r with groupsBefore := some r.groups.length }
      let body ← readChoice modes false fuel
      if !ahead && outer.isNone then modify fun r => { r with groupsBefore := none }
      closeParen start
      return .item (.look ahead negated (body.width (← get).groups).least body)
    if !(← accept '?') then captured none
    else
      match ← next with
      | none => failAt "unexpected end of pattern"
      | some [.char 'P'] =>
        if ← accept '<' then
          let name ← acceptUntil '>' "group name"
          captured (some (← checkName name))
        else if ← accept '=' then
          let name ← acceptUntil ')' "group name"
          let group ← groupNamed (← checkName name)
          if (← closedWidth? group).isNone then
            failAt "cannot refer to an open group" (name.length + 1)
          checkLookBehind group
          return .item (.recall group modes.folding)
        else
          match ← next with
          | none => failAt "unexpected end of pattern"
          | some token =>
            failAt ("unknown extension ?P" ++ ⟨token⟩) (token.length + 2)
      | some [.char ':'] => plain modes
      | some [.char '#'] =>
        skipComment start ((← get).rest.length + 1)
        return .nothing
      | some [.char '='] => look true false
      | some [.char '!'] => look true true
      | some [.char '<'] =>
        match ← next with
        | none => failAt "unexpected end of pattern"
        | some [.char '='] => look false false
        | some [.char '!'] => look false true
        | some token =>
          failAt ("unknown extension ?<" ++ ⟨token⟩) (token.length + 2)
      | some [.char '('] =>
        let group ← readCondition
        let yes ← readSequence modes false [] fuel
        let no ←
          if ← accept '|' then
            let no ← readSequence modes false [] fuel
            if (← peek) == some [.char '|'] then
              failAt "conditional backref with more than two branches"
            pure no
          else pure (.sequence [])
        closeParen start
        return .item (.ifCaptured group yes no)
      | some [.char '>'] =>
        let body ← readChoice modes false fuel
        closeParen start
        return .item (.atomic body)
      | some token =>
        if (modeOfToken? token).isSome || token == [.char '-'] then
          match ← readModeSwitch token with
          | .whole on =>
            modify fun r => { r with modes := r.modes.union on }
            if first then return .switched (← get).modes
            else throw (.malformed "global flags not at the start of the expression" (some start))
          | .inside on off => plain (modes.adjust on off)
        else failAt ("unknown extension ?" ++ ⟨token⟩) (token.length + 1)

end

/-- A whole pattern. -/
def readWhole : ReadM Node := do
  let r ← get
  checkLone r.position r.rest
  let node ← readChoice {} true (4 * r.rest.length + 8)
  let r ← get
  if r.modes.ascii && r.modes.unicode then throw (.refused .conflictingModes)
  if !r.rest.isEmpty then failAt "unbalanced parenthesis"
  match r.asked.find? fun (group, _) => group > r.groups.length with
  | some (group, position) =>
    throw (.malformed s!"invalid group reference {group}" (some position))
  | none => pure ()
  match node.lateFault? r.groups r.modes.template with
  | some fault => throw fault
  | none => return node

/-- The pattern a text writes, or the fault of the text. -/
def Node.read (text : Text) : Except Fault Node :=
  readWhole.run' { position := 0, rest := text.letters }

end Cascade.Pattern
