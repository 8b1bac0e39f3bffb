import Cascade.Number.Reading
import Cascade.Text.Search
import Cascade.Value

/-!
# Reading JSON documents

A document is one value with blanks around it. A number with neither point nor exponent is a whole
number of any size up to 4300 digits; all others are doubles, and the words `NaN`, `Infinity` and
`-Infinity` are accepted as doubles too. A key that an object repeats keeps its first place and its
last value.

Half of a surrogate pair is kept as it is, whether it stands in a string by itself or is written by
an escape; only two escapes in a row that write the two halves of a pair are one character. There is
no bound on how deep lists and objects are nested.
-/

namespace Cascade.Json

/-- Why a document cannot be read. -/
inductive ReadError where
  /-- The text is no JSON document. -/
  | malformed
  /-- A whole number has more digits than are converted. -/
  | tooManyDigits
  deriving Repr, DecidableEq

/-- The most digits a whole number may have. -/
def maxDigits : Nat := 4300

/-- Whether a code point may stand between the parts of a document. -/
def isSpace (l : Letter) : Bool :=
  l.isIn fun c => c == ' ' || c == '\t' || c == '\n' || c == '\r'

/-- A text without the blanks it starts with. -/
def skipSpace (s : List Letter) : List Letter := s.dropWhile isSpace

/-- What the character behind a backslash stands for: itself or a control. -/
def shortEscape? (c : Char) : Option Char :=
  match c with
  | '"' => some '"'
  | '\\' => some '\\'
  | '/' => some '/'
  | 'b' => some '\x08'
  | 'f' => some '\x0c'
  | 'n' => some '\n'
  | 'r' => some '\r'
  | 't' => some '\t'
  | _ => none

/-- The code point that four hexadecimal digits write. -/
def hexLetter? (a b c d : Char) : Option Letter := do
  let a ← Text.hexValue? a
  let b ← Text.hexValue? b
  let c ← Text.hexValue? c
  let d ← Text.hexValue? d
  Letter.ofPoint? (((a * 16 + b) * 16 + c) * 16 + d)

/-- A code point of a string, and whether it is written by its number. -/
structure StringPart where
  letter : Letter
  byNumber : Bool := false

/-- The parts of a string up to its closing quote, and the text behind that quote. -/
def readParts : List Letter → Option (List StringPart × List Letter)
  | [] => none
  | .char '"' :: rest => some ([], rest)
  | .char '\\' :: .char 'u' :: .char a :: .char b :: .char c :: .char d :: rest => do
    let letter ← hexLetter? a b c d
    let (parts, rest) ← readParts rest
    return (⟨letter, true⟩ :: parts, rest)
  | .char '\\' :: .char c :: rest => do
    let c ← shortEscape? c
    let (parts, rest) ← readParts rest
    return (⟨c, false⟩ :: parts, rest)
  | letter :: rest =>
    if letter.point < 0x20 || letter == .char '\\' then none
    else do
      let (parts, rest) ← readParts rest
      return (⟨letter, false⟩ :: parts, rest)

/-- The code points of a string. Halves that are written by their numbers one after the other are
joined to a character; halves that stand there as they are stay apart. -/
def joinParts : List StringPart → List Letter
  | ⟨a, true⟩ :: ⟨b, true⟩ :: rest =>
    match a.join? b with
    | some c => .char c :: joinParts rest
    | none => a :: joinParts (⟨b, true⟩ :: rest)
  | part :: rest => part.letter :: joinParts rest
  | [] => []

/-- A string whose opening quote has been read, and the text behind it. -/
def readString (s : List Letter) : Option (Text × List Letter) :=
  (readParts s).map fun (parts, rest) => (⟨joinParts parts⟩, rest)

/-- The digits that a text begins with, and the text behind them. -/
def readDigits (s : List Letter) : List Char × List Letter :=
  (Letter.leading Char.isDigit s, s.dropWhile (Letter.isIn Char.isDigit))

/-- A fraction: its digits and the text behind it. A point with no digit behind it is left alone. -/
def readFraction (s : List Letter) : List Char × List Letter :=
  match s with
  | .char '.' :: rest =>
    let (digits, rest) := readDigits rest
    if digits.isEmpty then ([], s) else (digits, rest)
  | _ => ([], s)

/-- An exponent, if there is one, and the text behind it. -/
def readExponent (s : List Letter) : Option Int × List Letter :=
  match s with
  | .char c :: rest =>
    if c == 'e' || c == 'E' then
      let negative := rest.head? == some (.char '-')
      let rest := if negative || rest.head? == some (.char '+') then rest.drop 1 else rest
      let (digits, rest) := readDigits rest
      if digits.isEmpty then (none, s)
      else
        let n : Int := digitsValue digits
        (some (if negative then -n else n), rest)
    else (none, s)
  | _ => (none, s)

/-- A number without its sign, and the text behind it. -/
def readUnsigned (negative : Bool) (s : List Letter) : Except ReadError (Value × List Letter) :=
  let digits := (readDigits s).1
  let whole := if digits.head? == some '0' then digits.take 1 else digits
  if whole.isEmpty then .error .malformed
  else
    let (fraction, rest) := readFraction (s.drop whole.length)
    let (exponent, rest) := readExponent rest
    if fraction.isEmpty && exponent.isNone then
      if whole.length > maxDigits then .error .tooManyDigits
      else
        let n : Int := digitsValue whole
        .ok (.int (if negative then -n else n), rest)
    else
      let exponent := exponent.getD 0 - fraction.length
      .ok (.float (decimalFloat negative (digitsValue (whole ++ fraction)) exponent), rest)

/-- The values that are written by words. -/
def words : List (Text × Value) :=
  [("null", .null), ("true", .bool true), ("false", .bool false), ("NaN", .float (0.0 / 0.0)),
    ("Infinity", .float (packFloat false (Nat.pow 2 52) 972)),
    ("-Infinity", .float (packFloat true (Nat.pow 2 52) 972))]

/-- A value written by a word, or a number. -/
def readScalar (s : List Letter) : Except ReadError (Value × List Letter) :=
  let word? :=
    words.findSome? fun (word, v) => (Text.after? word.letters s).map fun rest => (v, rest)
  match word?, s with
  | some found, _ => .ok found
  | none, .char '-' :: rest => readUnsigned true rest
  | none, _ => readUnsigned false s

mutual

/-- A value at the start of a text, and the text behind it. -/
def readValue : (fuel : Nat) → List Letter → Except ReadError (Value × List Letter)
  | 0, _ => .error .malformed
  | fuel + 1, s =>
    match s with
    | .char '"' :: rest =>
      match readString rest with
      | some (text, rest) => .ok (.str text, rest)
      | none => .error .malformed
    | .char '[' :: rest =>
      match skipSpace rest with
      | .char ']' :: rest => .ok (.list [], rest)
      | rest => do
        let (items, rest) ← readItems fuel rest
        return (.list items, rest)
    | .char '\x7b' :: rest =>
      match skipSpace rest with
      | .char '\x7d' :: rest => .ok (.object [], rest)
      | rest => do
        let (bindings, rest) ← readBindings fuel rest
        return (.object (Entries.ofBindings bindings), rest)
    | _ => readScalar s

/-- The items of a list that is not empty, and the text behind its closing bracket. -/
def readItems : (fuel : Nat) → List Letter → Except ReadError (List Value × List Letter)
  | 0, _ => .error .malformed
  | fuel + 1, s => do
    let (value, rest) ← readValue fuel s
    match skipSpace rest with
    | .char ',' :: rest =>
      let (values, rest) ← readItems fuel (skipSpace rest)
      return (value :: values, rest)
    | .char ']' :: rest => return ([value], rest)
    | _ => .error .malformed

/-- The bindings of an object that is not empty, and the text behind its closing brace. -/
def readBindings : (fuel : Nat) → List Letter → Except ReadError (List (Text × Value) × List Letter)
  | 0, _ => .error .malformed
  | fuel + 1, s =>
    match s with
    | .char '"' :: rest =>
      match readString rest with
      | none => .error .malformed
      | some (key, rest) =>
        match skipSpace rest with
        | .char ':' :: rest => do
          let (value, rest) ← readValue fuel (skipSpace rest)
          match skipSpace rest with
          | .char ',' :: rest =>
            let (bindings, rest) ← readBindings fuel (skipSpace rest)
            return ((key, value) :: bindings, rest)
          | .char '\x7d' :: rest => return ([(key, value)], rest)
          | _ => .error .malformed
        | _ => .error .malformed
    | _ => .error .malformed

end

/-- The value a document holds. Every value takes at least one character, and no reading step passes
over a character without spending fuel on it, so twice the length is enough. -/
def read (s : List Letter) : Except ReadError Value := do
  let (value, rest) ← readValue (2 * s.length + 2) (skipSpace s)
  if (skipSpace rest).isEmpty then return value else .error .malformed

end Cascade.Json
