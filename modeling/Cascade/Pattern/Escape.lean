import Cascade.Pattern.Token

/-!
# Escapes

What a backslash and the character behind it mean in a pattern. Inside a set only characters and
named classes can be escaped; outside there are also anchors and references to groups. Numbers are
written in hexadecimal with a fixed count of digits, or in octal.

A character may be given by its name, too. Only the names of ASCII characters are known here; any
other name is taken for undefined (`charOfName?`).
-/

namespace Cascade.Pattern

/-- The meaning of an escape. -/
inductive Escape where
  | char (point : Nat)
  | named (cls : CharClass) (negated : Bool)
  | anchor (place : Anchor)
  | group (index : Nat)
  deriving Repr, DecidableEq

/-- The control a letter stands for, everywhere. -/
def controlOfLetter? (c : Char) : Option Nat :=
  match c with
  | 'a' => some 7
  | 'b' => some 8
  | 'f' => some 12
  | 'n' => some 10
  | 'r' => some 13
  | 't' => some 9
  | 'v' => some 11
  | '\\' => some 92
  | _ => none

/-- The named class a letter stands for. -/
def classOfLetter? (c : Char) : Option Escape :=
  match c with
  | 'd' => some (.named .digit false)
  | 'D' => some (.named .digit true)
  | 's' => some (.named .space false)
  | 'S' => some (.named .space true)
  | 'w' => some (.named .word false)
  | 'W' => some (.named .word true)
  | _ => none

/-- The anchor a letter stands for. -/
def anchorOfLetter? (modes : Modes) (c : Char) : Option Escape :=
  match c with
  | 'A' => some (.anchor .textStart)
  | 'b' => some (.anchor (.boundary modes.ascii))
  | 'B' => some (.anchor (.noBoundary modes.ascii))
  | 'Z' => some (.anchor .textEnd)
  | _ => none

/-- Whether a character is an octal digit. -/
def isOctal (c : Char) : Bool := '0' ≤ c && c ≤ '7'

/-- The number that octal digits write. -/
def octalValue (digits : List Char) : Nat := digits.foldl (fun n c => n * 8 + (c.toNat - 48)) 0

/-- The number that hexadecimal digits write. -/
def hexadecimalValue (digits : List Char) : Nat :=
  digits.foldl (fun n c => n * 16 + (Text.hexValue? c).getD 0) 0

/-- A fault that shows the escape read so far. -/
def failEscape {α : Type} (reason : String) (escape : List Char) : ReadM α :=
  failAt (reason ++ " " ++ Text.ofChars escape) escape.length

/-- A number of exactly `count` hexadecimal digits behind a backslash and a letter. -/
def readHexadecimal (letter : Char) (count : Nat) : ReadM Escape := do
  let digits ← acceptWhile count fun c => (Text.hexValue? c).isSome
  let escape := '\\' :: letter :: digits
  if digits.length = count then
    let n := hexadecimalValue digits
    if n < 0x110000 then return .char n else failEscape "bad escape" escape
  else failEscape "incomplete escape" escape

/-- The names of the characters that are neither letters nor digits. -/
def markNames : List (String × Char) :=
  [("SPACE", ' '), ("SP", ' '), ("EXCLAMATION MARK", '!'), ("QUOTATION MARK", '"'),
    ("NUMBER SIGN", '#'), ("DOLLAR SIGN", '$'), ("PERCENT SIGN", '%'), ("AMPERSAND", '&'),
    ("APOSTROPHE", '\''),
    ("LEFT PARENTHESIS", '('), ("RIGHT PARENTHESIS", ')'), ("ASTERISK", '*'), ("PLUS SIGN", '+'),
    ("COMMA", ','), ("HYPHEN-MINUS", '-'), ("FULL STOP", '.'), ("SOLIDUS", '/'), ("COLON", ':'),
    ("SEMICOLON", ';'), ("LESS-THAN SIGN", '<'), ("EQUALS SIGN", '='),
    ("GREATER-THAN SIGN", '>'), ("QUESTION MARK", '?'), ("COMMERCIAL AT", '@'),
    ("LEFT SQUARE BRACKET", '['), ("REVERSE SOLIDUS", '\\'), ("RIGHT SQUARE BRACKET", ']'),
    ("CIRCUMFLEX ACCENT", '^'), ("LOW LINE", '_'), ("GRAVE ACCENT", '\x60'),
    ("LEFT CURLY BRACKET", '\x7b'), ("VERTICAL LINE", '|'), ("RIGHT CURLY BRACKET", '\x7d'),
    ("TILDE", '~')]

/-- The names of the digits. -/
def digitNames : List (String × Char) :=
  [("ZERO", '0'), ("ONE", '1'), ("TWO", '2'), ("THREE", '3'), ("FOUR", '4'), ("FIVE", '5'),
    ("SIX", '6'), ("SEVEN", '7'), ("EIGHT", '8'), ("NINE", '9')]

/-- The names and abbreviations of the control characters, by number. -/
def controlNames : List (Nat × List String) :=
  [(0, ["NULL", "NUL"]), (1, ["START OF HEADING", "SOH"]), (2, ["START OF TEXT", "STX"]),
    (3, ["END OF TEXT", "ETX"]), (4, ["END OF TRANSMISSION", "EOT"]), (5, ["ENQUIRY", "ENQ"]),
    (6, ["ACKNOWLEDGE", "ACK"]), (7, ["ALERT", "BEL"]), (8, ["BACKSPACE", "BS"]),
    (9, ["CHARACTER TABULATION", "HORIZONTAL TABULATION", "HT", "TAB"]),
    (10, ["LINE FEED", "NEW LINE", "END OF LINE", "LF", "NL", "EOL"]),
    (11, ["LINE TABULATION", "VERTICAL TABULATION", "VT"]), (12, ["FORM FEED", "FF"]),
    (13, ["CARRIAGE RETURN", "CR"]), (14, ["SHIFT OUT", "LOCKING-SHIFT ONE", "SO"]),
    (15, ["SHIFT IN", "LOCKING-SHIFT ZERO", "SI"]), (16, ["DATA LINK ESCAPE", "DLE"]),
    (17, ["DEVICE CONTROL ONE", "DC1"]), (18, ["DEVICE CONTROL TWO", "DC2"]),
    (19, ["DEVICE CONTROL THREE", "DC3"]), (20, ["DEVICE CONTROL FOUR", "DC4"]),
    (21, ["NEGATIVE ACKNOWLEDGE", "NAK"]), (22, ["SYNCHRONOUS IDLE", "SYN"]),
    (23, ["END OF TRANSMISSION BLOCK", "ETB"]), (24, ["CANCEL", "CAN"]),
    (25, ["END OF MEDIUM", "EOM"]), (26, ["SUBSTITUTE", "SUB"]), (27, ["ESCAPE", "ESC"]),
    (28, ["INFORMATION SEPARATOR FOUR", "FILE SEPARATOR", "FS"]),
    (29, ["INFORMATION SEPARATOR THREE", "GROUP SEPARATOR", "GS"]),
    (30, ["INFORMATION SEPARATOR TWO", "RECORD SEPARATOR", "RS"]),
    (31, ["INFORMATION SEPARATOR ONE", "UNIT SEPARATOR", "US"]), (127, ["DELETE", "DEL"])]

/-- The names of characters. -/
def charNames : List (String × Char) :=
  let letters := "ABCDEFGHIJKLMNOPQRSTUVWXYZ".toList
  markNames ++ digitNames.map (fun (word, c) => ("DIGIT " ++ word, c)) ++
    letters.map (fun c => ("LATIN CAPITAL LETTER " ++ c.toString, c)) ++
    letters.map (fun c => ("LATIN SMALL LETTER " ++ c.toString, c.toLower)) ++
    controlNames.flatMap fun (n, names) => names.map fun name => (name, Char.ofNat n)

/-- The character of a name, which may be written in either case. -/
def charOfName? (name : String) : Option Char :=
  charNames.lookup (String.ofList (name.toList.map Char.toUpper))

/-- A character by name. A name is looked up in characters; half of a surrogate pair makes the
escape itself a bad one. -/
def readNamedChar : ReadM Escape := do
  if ← accept '\x7b' then
    let name : Text := ⟨← acceptUntil '\x7d' "character name"⟩
    match name.string? with
    | none => failEscape "bad escape" ['\\', 'N']
    | some known =>
      match charOfName? known with
      | some c => return .char c.toNat
      | none =>
        failAt ("undefined character name " ++ Text.ofChars name.quoted) (name.letters.length + 4)
  else failAt "missing \x7b"

/-- The escapes that mean the same inside and outside a set: a character by number or by name, or
the code point behind the backslash when it is no ASCII letter or digit. -/
def readCommonEscape (l : Letter) : ReadM Escape :=
  match l with
  | .char 'x' => readHexadecimal 'x' 2
  | .char 'u' => readHexadecimal 'u' 4
  | .char 'U' => readHexadecimal 'U' 8
  | .char 'N' => readNamedChar
  | l =>
    if l.isIn Char.isAlphanum then failEscape "bad escape" ('\\' :: l.char?.toList)
    else return .char l.point

/-- An octal number that must fit into one byte. -/
def octalByte (digits : List Char) : ReadM Escape := do
  let n := octalValue digits
  if n ≤ 0o377 then return .char n
  else
    let escape := '\\' :: digits
    failAt ("octal escape value " ++ Text.ofChars escape ++ " outside of range 0-0o377")
      escape.length

/-- The escape behind a backslash inside a set; the token has been consumed. -/
def readSetEscape : Letter → ReadM Escape
  | .half n => readCommonEscape (.half n)
  | .char c => do
    match controlOfLetter? c, classOfLetter? c with
    | some n, _ => return .char n
    | none, some e => return e
    | none, none =>
      if isOctal c then octalByte (c :: (← acceptWhile 2 isOctal)) else readCommonEscape c

/-- A reference to a group by number, or the octal number that three digits write. -/
def readNumberEscape (c : Char) : ReadM Escape := do
  let second ← acceptWhile 1 Char.isDigit
  let third ←
    if (c :: second).all isOctal && !second.isEmpty then acceptWhile 1 isOctal else pure []
  if !third.isEmpty then octalByte (c :: second ++ third)
  else
    let digits := c :: second
    let group := digitsValue digits
    if group ≤ (← get).groups.length then
      if (← closedWidth? group).isNone then
        failAt "cannot refer to an open group" (digits.length + 1)
      else
        checkLookBehind group
        return .group group
    else failAt s!"invalid group reference {group}" digits.length

/-- The escape behind a backslash outside a set; the token has been consumed. -/
def readEscape (modes : Modes) : Letter → ReadM Escape
  | .half n => readCommonEscape (.half n)
  | .char c => do
    match classOfLetter? c, anchorOfLetter? modes c, controlOfLetter? c with
    | some e, _, _ => return e
    | none, some e, _ => return e
    | none, none, some n => return .char n
    | none, none, none =>
      if c == '0' then return .char (octalValue (← acceptWhile 2 isOctal))
      else if c.isDigit then readNumberEscape c
      else readCommonEscape c

end Cascade.Pattern
