import Cascade.Text.Digits
import Cascade.Text.Letter
import Cascade.Text.Printable

/-!
# Quoted texts

A text inside a list or an object is written between quotes: single ones unless the text holds a
single quote and no double quote. The quote in use, the backslash and everything unprintable are
escaped; line feed, carriage return and tab have short escapes, other code points their number in
two, four or eight hexadecimal digits. So what is written has characters only.
-/

namespace Cascade.Text

/-- The quote that encloses a text. -/
def quoteFor (t : Text) : Char :=
  if t.letters.contains (.char '\'') && !t.letters.contains (.char '"') then '"' else '\''

/-- A code point as it stands between two `quote`s. -/
def escapeIn (quote : Char) : Letter → List Char
  | .half n => '\\' :: 'u' :: hexDigits 4 (Letter.half n).point
  | .char c =>
    if c == quote || c == '\\' then ['\\', c]
    else if c == '\n' then ['\\', 'n']
    else if c == '\r' then ['\\', 'r']
    else if c == '\t' then ['\\', 't']
    else if isPrintable c then [c]
    else if c.toNat < 0x100 then '\\' :: 'x' :: hexDigits 2 c.toNat
    else if c.toNat < 0x10000 then '\\' :: 'u' :: hexDigits 4 c.toNat
    else '\\' :: 'U' :: hexDigits 8 c.toNat

/-- The text between quotes. -/
def quoted (t : Text) : List Char :=
  let quote := quoteFor t
  quote :: t.letters.flatMap (escapeIn quote) ++ [quote]

end Cascade.Text
