import Cascade.Pattern.Basic
import Cascade.Pattern.Error
import Cascade.Number.Reading
import Cascade.Text.Identifier
import Cascade.Text.Quoted

/-!
# The text of a pattern, token by token

A token is one code point, or a backslash with the code point behind it. Reading looks one token
ahead, so a backslash with nothing behind it is found as soon as the token before it is consumed.
`Reading` is the state of a reader: the text that is left with its position, and what has been
learned so far about modes and groups.
-/

namespace Cascade.Pattern

/-- The modes a pattern can switch on and off. -/
structure Modes where
  ignoreCase : Bool := false
  multiline : Bool := false
  dotAll : Bool := false
  verbose : Bool := false
  ascii : Bool := false
  unicode : Bool := false
  template : Bool := false
  deriving Repr, DecidableEq

namespace Modes

/-- The modes of either. -/
def union (a b : Modes) : Modes where
  ignoreCase := a.ignoreCase || b.ignoreCase
  multiline := a.multiline || b.multiline
  dotAll := a.dotAll || b.dotAll
  verbose := a.verbose || b.verbose
  ascii := a.ascii || b.ascii
  unicode := a.unicode || b.unicode
  template := a.template || b.template

/-- Whether two sets of modes have one in common. -/
def meets (a b : Modes) : Bool :=
  (a.ignoreCase && b.ignoreCase) || (a.multiline && b.multiline) || (a.dotAll && b.dotAll) ||
    (a.verbose && b.verbose) || (a.ascii && b.ascii) || (a.unicode && b.unicode) ||
    (a.template && b.template)

/-- The modes inside a group that switches some on and others off. The two character modes exclude
each other. -/
def adjust (m on off : Modes) : Modes where
  ignoreCase := (m.ignoreCase || on.ignoreCase) && !off.ignoreCase
  multiline := (m.multiline || on.multiline) && !off.multiline
  dotAll := (m.dotAll || on.dotAll) && !off.dotAll
  verbose := (m.verbose || on.verbose) && !off.verbose
  ascii := if on.ascii || on.unicode then on.ascii else m.ascii
  unicode := if on.ascii || on.unicode then on.unicode else m.unicode
  template := m.template

/-- How characters are compared under the modes. -/
def folding (m : Modes) : Folding :=
  if !m.ignoreCase then .exact else if m.ascii then .ascii else .unicode

end Modes

/-- The mode a letter stands for. The letter of the locale mode is known too, to be refused. -/
def modeOfLetter? (c : Char) : Option Modes :=
  match c with
  | 'i' => some { ignoreCase := true }
  | 'm' => some { multiline := true }
  | 's' => some { dotAll := true }
  | 'x' => some { verbose := true }
  | 'a' => some { ascii := true }
  | 'u' => some { unicode := true }
  | 't' => some { template := true }
  | 'L' => some {}
  | _ => none

/-- The least and the greatest number of characters a part can match. -/
structure Width where
  least : Nat
  most : Nat
  deriving Repr, DecidableEq

/-- The state of a reader of patterns. -/
structure Reading where
  /-- Number of code points before the token that is next. -/
  position : Nat
  /-- The text from the token that is next. -/
  rest : List Letter
  /-- Modes of the whole pattern. -/
  modes : Modes := {}
  /-- Widths of the groups from number one on; a group that is still open has none. -/
  groups : List (Option Width) := []
  /-- Names of groups. -/
  names : List (String × Nat) := []
  /-- Inside a look-behind, the number of groups there were before it. -/
  groupsBefore : Option Nat := none
  /-- Groups that conditions have asked about by number, with the places. -/
  asked : List (Nat × Nat) := []
  deriving Inhabited

/-- A reading step: it changes the state or finds a fault. -/
abbrev ReadM := StateT Reading (Except Fault)

/-- Tokens are short lists of code points. -/
abbrev Token := List Letter

/-- A fault `back` places before the token that is next. -/
def failAt {α : Type} (reason : Text) (back : Nat := 0) : ReadM α := do
  throw (.malformed reason (some ((← get).position - back)))

/-- The token at the start of a text. -/
def firstToken : List Letter → Option Token
  | [] => none
  | .char '\\' :: l :: _ => some [.char '\\', l]
  | l :: _ => some [l]

/-- The token that is next. -/
def peek : ReadM (Option Token) := return firstToken (← get).rest

/-- Refuses a text of which nothing is left but a backslash. -/
def checkLone (position : Nat) (rest : List Letter) : ReadM Unit :=
  if rest == [.char '\\'] then throw (.malformed "bad escape (end of pattern)" (some position))
  else pure ()

/-- Moves to a place in the text. -/
def seek (position : Nat) (rest : List Letter) : ReadM Unit := do
  checkLone position rest
  modify fun r => { r with position, rest }

/-- Consumes the token that is next. -/
def next : ReadM (Option Token) := do
  let r ← get
  match firstToken r.rest with
  | none => return none
  | some token =>
    seek (r.position + token.length) (r.rest.drop token.length)
    return some token

/-- Consumes the token that is next if it is this character. -/
def accept (c : Char) : ReadM Bool := do
  if (← peek) == some [.char c] then
    discard next
    return true
  else return false

/-- Consumes up to `limit` one-character tokens of a class. -/
def acceptWhile (limit : Nat) (p : Char → Bool) : ReadM (List Char) :=
  match limit with
  | 0 => return []
  | limit + 1 => do
    match ← peek with
    | some [.char c] =>
      if p c then
        discard next
        return c :: (← acceptWhile limit p)
      else return []
    | _ => return []

/-- Consumes tokens up to a terminator, which is consumed too; `found` holds what has been read. -/
def acceptUntilFrom (terminator : Char) (what : String) (found : List Letter) :
    (fuel : Nat) → ReadM (List Letter)
  | 0 => failAt s!"missing {what}"
  | fuel + 1 => do
    match ← next with
    | none =>
      if found.isEmpty then failAt s!"missing {what}"
      else failAt s!"missing {terminator}, unterminated name" found.length
    | some token =>
      if token == [.char terminator] then
        if found.isEmpty then failAt s!"missing {what}" 1 else return found
      else acceptUntilFrom terminator what (found ++ token) fuel

/-- Consumes a name and the terminator behind it. -/
def acceptUntil (terminator : Char) (what : String) : ReadM (List Letter) := do
  acceptUntilFrom terminator what [] ((← get).rest.length + 1)

/-- A fault in a name that has just been read together with one character behind it. -/
def failName {α : Type} (reason : String) (name : List Letter) : ReadM α :=
  failAt (reason ++ " " ++ String.ofList (Text.quoted ⟨name⟩)) (name.length + 1)

/-- The identifier that a name is, if it is one. -/
def identifier? (name : List Letter) : Option (List Char) :=
  (Text.chars? ⟨name⟩).filter Text.isIdentifier

/-- The characters of a group name; a name that is no identifier is refused. -/
def checkName (name : List Letter) : ReadM (List Char) :=
  match identifier? name with
  | some cs => pure cs
  | none => failName "bad character in group name" name

/-- The width of a group that has been closed. -/
def closedWidth? (group : Nat) : ReadM (Option Width) := do
  if group = 0 then return none
  return ((← get).groups[group - 1]?).join

/-- Refuses, inside a look-behind, a group that is open or was opened inside it. -/
def checkLookBehind (group : Nat) : ReadM Unit := do
  match (← get).groupsBefore with
  | none => pure ()
  | some before =>
    if (← closedWidth? group).isNone then failAt "cannot refer to an open group"
    else if group > before then
      failAt "cannot refer to group defined in the same lookbehind subpattern"
    else pure ()

end Cascade.Pattern
