import Cascade.Pattern.Basic

/-!
# Matching by backtracking

A node is run at a place of the text with a continuation: what has to match behind it. The first way
in which the node and its continuation match together is the result, and the order of the ways is
that of the alternatives, longer repetitions first unless they are lazy. Atomic parts and conditions
are run with no continuation of their own, so that nothing behind them reopens them.

A repetition that matched nothing is not repeated again. Hence a loop makes at most one round per
code point beyond its least count, which bounds the recursion.
-/

namespace Cascade.Pattern

/-- A place in a text, with what the groups have matched on the way to it. -/
structure Place where
  /-- The text before the place, nearest code point first. -/
  before : List Letter
  after : List Letter
  position : Nat := 0
  captured : List (Nat × List Letter) := []

namespace Place

/-- The place behind the next code point. -/
def advance (p : Place) (l : Letter) (rest : List Letter) : Place :=
  { p with before := l :: p.before, after := rest, position := p.position + 1 }

/-- The place a number of code points earlier. -/
def retreat? (p : Place) : Nat → Option Place
  | 0 => some p
  | n + 1 =>
    match p.before with
    | [] => none
    | l :: before =>
      retreat? { p with before, after := l :: p.after, position := p.position - 1 } n

/-- The place with a group bound to the text between an earlier place and it. -/
def bind (p : Place) (group : Nat) (start : Place) : Place :=
  let text := start.after.take (p.position - start.position)
  { p with captured := (group, text) :: p.captured.filter (·.1 ≠ group) }

/-- The place behind a text that is compared code point by code point. -/
def skip? (p : Place) (folding : Folding) : List Letter → Option Place
  | [] => some p
  | k :: text =>
    match p.after with
    | [] => none
    | l :: rest =>
      if folding.fold k.point == folding.fold l.point then skip? (p.advance l rest) folding text
      else none

/-- Whether a place meets the condition of an anchor. In the empty text no place is, or is not, at
the boundary of a word. -/
def meets (p : Place) : Anchor → Bool
  | .textStart => p.before.isEmpty
  | .lineStart => p.before.isEmpty || p.before.head? == some (.char '\n')
  | .lastLineEnd => p.after.isEmpty || p.after == [.char '\n']
  | .lineEnd => p.after.isEmpty || p.after.head? == some (.char '\n')
  | .textEnd => p.after.isEmpty
  | .boundary ascii => !(p.before.isEmpty && p.after.isEmpty) && changes ascii
  | .noBoundary ascii => !(p.before.isEmpty && p.after.isEmpty) && !changes ascii
where
  /-- Whether exactly one of the characters around the place is a word character. -/
  changes (ascii : Bool) : Bool :=
    let isWord := Letter.isIn fun c => if ascii then Text.isAsciiWord c else Text.isWord c
    (p.before.head?.map isWord).getD false != (p.after.head?.map isWord).getD false

end Place

/-- What has to match behind a part: the final place, if it does. -/
abbrev Continuation := Place → Option Place

/-- A part that can be run at a place with a continuation. -/
abbrev Runner := Place → Continuation → Option Place

/-- Whether a loop may make another round: its count permits it and the last round moved on. -/
def mayRepeat (most : Option Nat) (count : Nat) (last : Option Nat) (p : Place) : Bool :=
  (match most with
    | none => true
    | some n => count < n) && last != some p.position

/-- A loop that prefers more rounds. -/
def runGreedy (body : Runner) (least : Nat) (most : Option Nat) (k : Continuation) :
    (fuel count : Nat) → (last : Option Nat) → Continuation
  | 0, _, _, p => k p
  | fuel + 1, count, last, p =>
    if count < least then body p (runGreedy body least most k fuel (count + 1) last)
    else if mayRepeat most count last p then
      (body p (runGreedy body least most k fuel (count + 1) (some p.position))).or (k p)
    else k p

/-- A loop that prefers fewer rounds. -/
def runLazy (body : Runner) (least : Nat) (most : Option Nat) (k : Continuation) :
    (fuel count : Nat) → (last : Option Nat) → Continuation
  | 0, _, _, p => k p
  | fuel + 1, count, last, p =>
    if count < least then body p (runLazy body least most k fuel (count + 1) last)
    else
      (k p).or <|
        if mayRepeat most count last p then
          body p (runLazy body least most k fuel (count + 1) (some p.position))
        else none

/-- A loop that makes as many rounds as it can and is never reopened. -/
def runPossessive (body : Runner) (least : Nat) (most : Option Nat) :
    (fuel count : Nat) → (last : Option Nat) → Continuation
  | 0, _, _, p => some p
  | fuel + 1, count, last, p =>
    if count < least then
      (body p some).bind (runPossessive body least most fuel (count + 1) last)
    else if mayRepeat most count last p then
      match body p some with
      | some q => runPossessive body least most fuel (count + 1) (some p.position) q
      | none => some p
    else some p

/-- The places that repetitions of one code point reach, the farthest first; `reached` holds those
passed already. -/
def reach (set : CharSet) (room : Option Nat) (reached : List Place) (p : Place) :
    List Letter → List Place
  | [] => p :: reached
  | l :: rest =>
    if room = some 0 then p :: reached
    else if set.holds l then
      reach set (room.map (· - 1)) (p :: reached) (p.advance l rest) rest
    else p :: reached

/-- The first place of a list from which a continuation matches. -/
def firstFrom (k : Continuation) : List Place → Option Place
  | [] => none
  | p :: rest => (k p).or (firstFrom k rest)

/-- Greedy repetition of a single code point: all reachable places are known in advance. -/
def runSet (set : CharSet) (least : Nat) (most : Option Nat) (k : Continuation) (p : Place) :
    Option Place :=
  let places := reach set most [] p p.after
  firstFrom k (places.take (places.length - least))

mutual

/-- Runs a node at a place. -/
def Node.run : Node → Place → Continuation → Option Place
  | .one set, p, k =>
    match p.after with
    | [] => none
    | l :: rest => if set.holds l then k (p.advance l rest) else none
  | .anchor place, p, k => if p.meets place then k p else none
  | .sequence parts, p, k => runAll parts p k
  | .choice alternatives, p, k => runAny alternatives p k
  | .repeated kind least most body, p, k =>
    let fuel := least + p.after.length + 2
    match kind, body with
    | .greedy, .one set => runSet set least most k p
    | .greedy, body => runGreedy body.run least most k fuel 0 none p
    | .lazy, body => runLazy body.run least most k fuel 0 none p
    | .possessive, body => (runPossessive body.run least most fuel 0 none p).bind k
  | .capture group body, p, k => body.run p fun q => k (q.bind group p)
  | .atomic body, p, k => (body.run p some).bind k
  | .look ahead negated width body, p, k =>
    let found := ((if ahead then some p else p.retreat? width).bind fun q => body.run q some)
    match found with
    | some q => if negated then none else k { p with captured := q.captured }
    | none => if negated then k p else none
  | .recall group folding, p, k =>
    match p.captured.lookup group with
    | some text => (p.skip? folding text).bind k
    | none => none
  | .ifCaptured group yes no, p, k =>
    if (p.captured.lookup group).isSome then yes.run p k else no.run p k

/-- Runs nodes one after another. -/
def runAll : List Node → Place → Continuation → Option Place
  | [], p, k => k p
  | part :: rest, p, k => part.run p fun q => runAll rest q k

/-- Runs nodes in turn until one matches. -/
def runAny : List Node → Place → Continuation → Option Place
  | [], _, _ => none
  | part :: rest, p, k => (part.run p k).or (runAny rest p k)

end

/-- Whether a node matches somewhere from a place on. -/
def Node.searchFrom (node : Node) (p : Place) : List Letter → Bool
  | [] => (node.run p some).isSome
  | l :: rest => (node.run p some).isSome || node.searchFrom (p.advance l rest) rest

/-- Whether a pattern matches some part of a text. -/
def Node.search (node : Node) (text : Text) : Bool :=
  node.searchFrom { before := [], after := text.letters } text.letters

end Cascade.Pattern
