import Cascade.Text.Blank
import Cascade.Text.Search

/-!
# Environment files

An environment file binds names to values, one binding per line, with comments behind number signs.
A value may stand in quotes, and then go over several lines and hold escapes. A name may be led by
the word `export`; a name without an equals sign is bound to nothing. What fits no binding is passed
over up to the end of its line.

Inside a value, a name in braces behind a dollar sign stands for the value of that name: one bound
further up, or one of the surrounding environment.
-/

namespace Cascade.EnvFile

/-- A name and the text written for it, if any. -/
abbrev Binding := String × Option String

/-- White space within a line. -/
def isLineSpace (c : Char) : Bool := Text.isBlank c && c ≠ '\n' && c ≠ '\r'

/-- A text without the white space it starts with, up to the end of the line. -/
def skipLineSpace (s : List Char) : List Char := s.dropWhile isLineSpace

/-- The rest of the line, without its end. -/
def restOfLine (s : List Char) : List Char := s.takeWhile fun c => c ≠ '\n' && c ≠ '\r'

/-- What follows the rest of the line. -/
def afterLine (s : List Char) : List Char :=
  match s.dropWhile fun c => c ≠ '\n' && c ≠ '\r' with
  | '\r' :: '\n' :: rest => rest
  | _ :: rest => rest
  | [] => []

/-- A text without the word that may lead a name. -/
def skipExport (s : List Char) : List Char :=
  match Text.after? "export".toList s with
  | some (c :: rest) => if isLineSpace c then skipLineSpace rest else s
  | _ => s

/-- The place of the quote that ends a quoted text: the first one that is not escaped, or else the
last one that is. The text starts behind the opening quote. -/
def closingQuote? (quote : Char) (s : List Char) : Option Nat :=
  let places := s.zipIdx.filterMap fun (c, i) => if c = quote then some i else none
  let isEscaped (i : Nat) : Bool := i ≠ 0 && s[i - 1]? == some '\\'
  (places.find? fun i => !isEscaped i).or places.getLast?

/-- The character that an escape of a letter stands for. -/
def escapedChar? (doubleQuoted : Bool) (c : Char) : Option Char :=
  if c = '\\' ∨ c = '\'' then some c
  else if !doubleQuoted then none
  else
    match c with
    | '"' => some '"'
    | 'a' => some '\x07'
    | 'b' => some '\x08'
    | 'f' => some '\x0c'
    | 'n' => some '\n'
    | 'r' => some '\r'
    | 't' => some '\t'
    | 'v' => some '\x0b'
    | _ => none

/-- A quoted text with its escapes resolved. -/
def unescape (doubleQuoted : Bool) : List Char → List Char
  | [] => []
  | ['\\'] => ['\\']
  | '\\' :: c :: rest =>
    match escapedChar? doubleQuoted c with
    | some d => d :: unescape doubleQuoted rest
    | none => '\\' :: unescape doubleQuoted (c :: rest)
  | c :: rest => c :: unescape doubleQuoted rest

/-- A text up to a comment, which has white space before it. -/
def dropComment : List Char → List Char
  | [] => []
  | c :: rest =>
    if Text.isBlank c && (rest.dropWhile Text.isBlank).head? == some '#' then []
    else c :: dropComment rest

/-- A value, and the text behind it. -/
def readWritten (s : List Char) : Option (List Char × List Char) :=
  match s with
  | '\'' :: rest => do
    let i ← closingQuote? '\'' rest
    return (unescape false (rest.take i), rest.drop (i + 1))
  | '"' :: rest => do
    let i ← closingQuote? '"' rest
    return (unescape true (rest.take i), rest.drop (i + 1))
  | s =>
    let line := restOfLine s
    some (Text.trimEnd (dropComment line), s.drop line.length)

/-- A name, if there is one before a comment, and the text behind it. -/
def readName (s : List Char) : Option (Option (List Char) × List Char) :=
  match s with
  | '#' :: _ => some (none, s)
  | '\'' :: rest =>
    let name := rest.takeWhile (· ≠ '\'')
    match rest.drop name.length with
    | _ :: behind => if name.isEmpty then none else some (some name, behind)
    | [] => none
  | s =>
    let name := s.takeWhile fun c => c ≠ '=' && c ≠ '#' && !Text.isBlank c
    if name.isEmpty then none else some (some name, s.drop name.length)

/-- Whether nothing but a comment stands before the end of the line. -/
def endsLine (s : List Char) : Bool :=
  match skipLineSpace s with
  | [] => true
  | c :: _ => c = '#' || c = '\n' || c = '\r'

/-- The binding at the start of a text that does not start with white space, if there is one, and
the text behind its line. -/
def readBinding (s : List Char) : Option Binding × List Char :=
  let s := skipExport s
  match readName s with
  | none => (none, afterLine s)
  | some (name, behind) =>
    match skipLineSpace behind with
    | '=' :: rest =>
      match readWritten (skipLineSpace rest) with
      | none => (none, afterLine (skipLineSpace rest))
      | some (value, behind) =>
        let binding := name.map fun n => (String.ofList n, some (String.ofList value))
        (if endsLine behind then binding else none, afterLine behind)
    | behind =>
      let binding := name.map fun n => (String.ofList n, none)
      (if endsLine behind then binding else none, afterLine behind)

/-- The bindings of a text; every one of them takes at least a character, so `fuel` may be the
length of the text. -/
def readBindings : (fuel : Nat) → List Char → List Binding
  | 0, _ => []
  | fuel + 1, s =>
    match s.dropWhile Text.isBlank with
    | [] => []
    | c :: rest =>
      let (binding, behind) := readBinding (c :: rest)
      binding.toList ++ readBindings fuel behind

/-- The value of a name that stands in braces, with the text that stands for it if it has none. -/
def lookUp (scope : List Binding) (s : List Char) : List Char :=
  let name := s.takeWhile (· ≠ ':')
  match scope.lookup (String.ofList name) with
  | some (some value) => value.toList
  | some none => []
  | none => s.drop (name.length + 2)

/-- Whether a text can stand in braces: a name, or a name and what stands for it. -/
def isReference (s : List Char) : Bool :=
  match s.dropWhile (· ≠ ':') with
  | [] => true
  | ':' :: '-' :: _ => true
  | _ => false

/-- A value with the names in braces resolved; `fuel` may be its length. -/
def expand (scope : List Binding) : (fuel : Nat) → List Char → List Char
  | fuel + 1, '$' :: '\x7b' :: rest =>
    let inner := rest.takeWhile (· ≠ '\x7d')
    match rest.drop inner.length with
    | _ :: behind =>
      if isReference inner then lookUp scope inner ++ expand scope fuel behind
      else '$' :: expand scope fuel ('\x7b' :: rest)
    | [] => '$' :: '\x7b' :: rest
  | fuel + 1, c :: rest => c :: expand scope fuel rest
  | _, s => s

/-- Bindings with their values resolved, one after another; those resolved so far come before the
surrounding environment. -/
def resolve (environment : List Binding) : (resolved : List Binding) → List Binding → List Binding
  | resolved, [] => resolved
  | resolved, (name, value) :: rest =>
    let value := value.map fun v =>
      String.ofList (expand (resolved ++ environment) v.length v.toList)
    resolve environment ((name, value) :: resolved) rest

/-- Bindings with one more; a name that is bound already keeps its place. -/
def bind : List Binding → Binding → List Binding
  | [], b => [b]
  | (name, value) :: rest, b =>
    if name = b.1 then b :: rest else (name, value) :: bind rest b

/-- The values that an environment file binds names to, in the order in which the names first occur.
The last binding of a name counts. -/
def read (environment : List (String × String)) (text : String) : List (String × String) :=
  let surrounding := environment.map fun (name, value) => (name, some value)
  let resolved := resolve surrounding [] (readBindings text.length text.toList)
  (resolved.reverse.foldl bind []).filterMap fun (name, value) => value.map (name, ·)

end Cascade.EnvFile
