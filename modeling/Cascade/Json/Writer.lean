import Cascade.Value

/-!
# Writing JSON documents

`compact` writes a value on one line without blanks, all characters but the necessary ones as they
are. `indented` writes one item or entry per line, two blanks deeper at each level, in ASCII:
characters outside ASCII are escaped as one or two code units.

A document is sent as UTF-8. A number without digits cannot be written, and half of a surrogate pair
cannot be encoded; `isWritable` says of a value that it has neither.
-/

namespace Cascade.Json

/-- The escape of a character below `U+0020`, a quote or a backslash. -/
def controlEscape (c : Char) : List Char :=
  match c with
  | '"' => ['\\', '"']
  | '\\' => ['\\', '\\']
  | '\n' => ['\\', 'n']
  | '\r' => ['\\', 'r']
  | '\t' => ['\\', 't']
  | '\x08' => ['\\', 'b']
  | '\x0c' => ['\\', 'f']
  | c => '\\' :: 'u' :: Text.hexDigits 4 c.toNat

/-- Whether a character cannot stand in a string as it is. -/
def needsEscape (c : Char) : Bool := c.toNat < 0x20 || c == '"' || c == '\\'

/-- A character of an ASCII string. -/
def asciiChar (c : Char) : List Char :=
  if needsEscape c then controlEscape c
  else if c.toNat < 0x7F then [c]
  else if c.toNat < 0x10000 then '\\' :: 'u' :: Text.hexDigits 4 c.toNat
  else
    let n := c.toNat - 0x10000
    '\\' :: 'u' :: Text.hexDigits 4 (0xD800 + n / 0x400) ++
      '\\' :: 'u' :: Text.hexDigits 4 (0xDC00 + n % 0x400)

/-- A code point of a string that may hold any. -/
def plainLetter : Letter → List Letter
  | .char c => if needsEscape c then (controlEscape c).map .char else [.char c]
  | .half n => [.half n]

/-- A code point of an ASCII string. -/
def asciiLetter : Letter → List Letter
  | .char c => (asciiChar c).map .char
  | .half n => ('\\' :: 'u' :: Text.hexDigits 4 (Letter.half n).point).map .char

/-- A string between its quotes. -/
def quote (letter : Letter → List Letter) (s : Text) : Text :=
  ⟨.char '"' :: s.letters.flatMap letter ++ [.char '"']⟩

/-- A number or a word. -/
def floatWord (f : Float) : String :=
  match floatParts f with
  | .nan => "NaN"
  | .infinite negative => if negative then "-Infinity" else "Infinity"
  | .finite _ => floatText f

mutual

/-- Whether a value has a document that can be sent. -/
def isWritable : Value → Bool
  | .str s => s.isWhole
  | .float f =>
    match floatParts f with
    | .finite _ => true
    | _ => false
  | .list items => areWritable items
  | .object entries => areEntriesWritable entries
  | _ => true

/-- Whether all items have documents. -/
def areWritable : List Value → Bool
  | [] => true
  | v :: rest => isWritable v && areWritable rest

/-- Whether all entries have documents. -/
def areEntriesWritable : List (Text × Value) → Bool
  | [] => true
  | (k, v) :: rest => k.isWhole && isWritable v && areEntriesWritable rest

end

mutual

/-- A value on one line. -/
def compact : Value → Text
  | .null => "null"
  | .bool b => (if b then "true" else "false" : String)
  | .int i => intText i
  | .float f => floatWord f
  | .str s => quote plainLetter s
  | .list items => "[" ++ compactItems items ++ "]"
  | .object entries => "\x7b" ++ compactEntries entries ++ "\x7d"

/-- The items of a list on one line. -/
def compactItems : List Value → Text
  | [] => ""
  | [v] => compact v
  | v :: rest => compact v ++ "," ++ compactItems rest

/-- The entries of an object on one line. -/
def compactEntries : List (Text × Value) → Text
  | [] => ""
  | [(k, v)] => quote plainLetter k ++ ":" ++ compact v
  | (k, v) :: rest => quote plainLetter k ++ ":" ++ compact v ++ "," ++ compactEntries rest

end

/-- A line break and the indentation of the next line. -/
def lineBreak (depth : Nat) : String := "\n" ++ String.ofList (List.replicate (2 * depth) ' ')

mutual

/-- A value over several lines, its first line continuing one of depth `depth`. -/
def indentedAt (depth : Nat) : Value → Text
  | .null => "null"
  | .bool b => (if b then "true" else "false" : String)
  | .int i => intText i
  | .float f => floatWord f
  | .str s => quote asciiLetter s
  | .list [] => "[]"
  | .list items =>
    "[" ++ lineBreak (depth + 1) ++ indentedItems (depth + 1) items ++ lineBreak depth ++ "]"
  | .object [] => "\x7b\x7d"
  | .object entries =>
    "\x7b" ++ lineBreak (depth + 1) ++ indentedEntries (depth + 1) entries ++ lineBreak depth ++
      "\x7d"

/-- The items of a list, each on a line of its own. -/
def indentedItems (depth : Nat) : List Value → Text
  | [] => ""
  | [v] => indentedAt depth v
  | v :: rest => indentedAt depth v ++ "," ++ lineBreak depth ++ indentedItems depth rest

/-- The entries of an object, each on a line of its own. -/
def indentedEntries (depth : Nat) : List (Text × Value) → Text
  | [] => ""
  | [(k, v)] => quote asciiLetter k ++ ": " ++ indentedAt depth v
  | (k, v) :: rest =>
    quote asciiLetter k ++ ": " ++ indentedAt depth v ++ "," ++ lineBreak depth ++
      indentedEntries depth rest

end

/-- A value over several lines. -/
def indented (v : Value) : Text := indentedAt 0 v

end Cascade.Json
