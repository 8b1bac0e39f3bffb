import Cascade.Number.Reading
import Cascade.Payload.Issue
import Cascade.Text.Blank
import Cascade.Text.Utf8

/-!
# Reading scalars leniently

Payloads come from callers that do not all agree on types: a number may come as text, a flag as a
number. Each reader here says which values it accepts for a type and what is wrong with the others.
Texts are never made from anything else. A text is taken as it is; only where a number or a flag is
to be read from it must it be free of halves of surrogate pairs.
-/

namespace Cascade.Payload

/-- A reader of values: the value it makes of one, or what is wrong with it. -/
abbrev Decoder (α : Type) := Value → Checked α

/-- Whether a character is white space around a number. The separator controls are not. -/
def isNumberSpace (c : Char) : Bool := Text.isBlank c && !(0x1C ≤ c.toNat && c.toNat ≤ 0x1F)

/-- A text without white space at either end. -/
def trimNumber (s : List Char) : List Char :=
  ((s.dropWhile isNumberSpace).reverse.dropWhile isNumberSpace).reverse

/-- Digits without the low lines that single out groups of them; `none` if a low line stands at an
end or beside another one, or if there is anything else. -/
def groupedDigits? : List Char → Option (List Char)
  | [] => none
  | [c] => if c.isDigit then some [c] else none
  | c :: '_' :: rest => if c.isDigit then (groupedDigits? rest).map (c :: ·) else none
  | c :: rest => if c.isDigit then (groupedDigits? rest).map (c :: ·) else none

/-- A text without a fraction of zeros. -/
def dropZeroFraction (s : List Char) : List Char :=
  match s.dropWhile (· ≠ '.') with
  | '.' :: rest => if rest.all (· = '0') then s.takeWhile (· ≠ '.') else s
  | _ => s

/-- The whole number a text writes. -/
def intOfText? (s : List Char) : Option Int :=
  match dropZeroFraction (trimNumber s) with
  | '-' :: digits => (groupedDigits? digits).map fun ds => -(digitsValue ds : Int)
  | '+' :: digits => (groupedDigits? digits).map fun ds => (digitsValue ds : Int)
  | digits => (groupedDigits? digits).map fun ds => (digitsValue ds : Int)

/-- The least and greatest whole numbers a float may stand for are just inside these bounds. -/
def floatIntBound : Int := Int.pow 2 63

/-- The most bytes that a text of a whole number may have. -/
def maxIntLength : Nat := 4300

/-- What a reader makes of a text of characters; a text with halves is at fault. -/
def ofChars {α : Type} (read : List Char → Checked α) (t : Text) : Checked α :=
  match t.chars? with
  | some cs => read cs
  | none => .fault .stringUnicode

/-- The whole number a text writes, if it is not too long. -/
def intOfText (s : List Char) : Checked Int :=
  if maxIntLength < (Text.encodeUtf8 (trimNumber s)).length then .fault .intParsingSize
  else
    match intOfText? s with
    | some i => .valid i
    | none => .fault .intParsing

/-- A whole number. -/
def int : Decoder Int
  | .int i => .valid i
  | .bool b => .valid (if b then 1 else 0)
  | .float f =>
    match floatParts f with
    | .finite b =>
      if b.isWhole then
        let i := b.truncate
        if -floatIntBound < i ∧ i < floatIntBound then .valid i else .fault .intParsingSize
      else .fault .intFromFloat
    | _ => .fault .finiteNumber
  | .str t => ofChars intOfText t
  | _ => .fault .intType

/-- A text. -/
def text : Decoder Text
  | .str t => .valid t
  | _ => .fault .stringType

/-- A text of characters. -/
def string : Decoder String
  | .str t => ofChars (fun cs => .valid (String.ofList cs)) t
  | _ => .fault .stringType

/-- The flag a word stands for. -/
def flagOfWord? (s : List Char) : Option Bool :=
  let word := String.ofList (s.map Char.toLower)
  if ["0", "off", "f", "false", "n", "no"].contains word then some false
  else if ["1", "on", "t", "true", "y", "yes"].contains word then some true
  else none

/-- The flag a whole number stands for. -/
def flagOfInt (i : Int) : Checked Bool :=
  if i = 0 then .valid false else if i = 1 then .valid true else .fault .boolParsing

/-- A flag. -/
def flag : Decoder Bool
  | .bool b => .valid b
  | .int i => flagOfInt i
  | .float f =>
    match int (.float f) with
    | .valid i => flagOfInt i
    | .invalid _ => .fault .boolType
  | .str t =>
    ofChars (fun cs => ((flagOfWord? cs).map .valid).getD (.fault .boolParsing)) t
  | _ => .fault .boolType

/-- The digits before the point, those behind it, and the exponent of a decimal; at least one digit
must be there. -/
def decimalParts? (s : List Char) : Option (List Char × List Char × Int) :=
  let whole := s.takeWhile Char.isDigit
  let rest := s.dropWhile Char.isDigit
  let (fraction, rest) :=
    match rest with
    | '.' :: rest => (rest.takeWhile Char.isDigit, rest.dropWhile Char.isDigit)
    | rest => ([], rest)
  if whole.isEmpty && fraction.isEmpty then none
  else
    match rest with
    | [] => some (whole, fraction, 0)
    | c :: rest =>
      if c ≠ 'e' && c ≠ 'E' then none
      else
        let (negative, digits) :=
          match rest with
          | '-' :: ds => (true, ds)
          | '+' :: ds => (false, ds)
          | ds => (false, ds)
        if digits.isEmpty || !digits.all Char.isDigit then none
        else
          let n : Int := digitsValue digits
          some (whole, fraction, if negative then -n else n)

/-- The float a text without a sign writes. -/
def unsignedFloat? (negative : Bool) (s : List Char) : Option Float :=
  let word := String.ofList (s.map Char.toLower)
  if word = "inf" ∨ word = "infinity" then some (packFloat negative (Nat.pow 2 52) 972)
  else if word = "nan" then some (0.0 / 0.0)
  else
    (decimalParts? s).map fun (whole, fraction, exponent) =>
      decimalFloat negative (digitsValue (whole ++ fraction)) (exponent - fraction.length)

/-- The float a text writes, without low lines. -/
def plainFloat? (s : List Char) : Option Float :=
  match s with
  | '-' :: rest => unsignedFloat? true rest
  | '+' :: rest => unsignedFloat? false rest
  | rest => unsignedFloat? false rest

/-- A text without the single low lines inside it. -/
def dropLowLines? (s : List Char) : Option (List Char) :=
  if s.head? == some '_' || s.getLast? == some '_' then none
  else if (s.zip (s.drop 1)).any fun (a, b) => a == '_' && b == '_' then none
  else some (s.filter (· ≠ '_'))

/-- The float a text writes. -/
def floatOfText? (s : List Char) : Option Float :=
  (plainFloat? (trimNumber s)).or ((dropLowLines? s).bind plainFloat?)

/-- A float. -/
def float : Decoder Float
  | .float f => .valid f
  | .int i => .valid (floatOfInt i)
  | .bool b => .valid (if b then 1.0 else 0.0)
  | .str t =>
    ofChars (fun cs => ((floatOfText? cs).map .valid).getD (.fault .floatParsing)) t
  | _ => .fault .floatType

/-- An object with arbitrary values. -/
def entries : Decoder Entries
  | .object es => .valid es
  | _ => .fault .dictType

/-- The items of a list from one index on. -/
def itemsFrom {α : Type} (item : Decoder α) (i : Nat) : List Value → Checked (List α)
  | [] => .valid []
  | v :: rest => (· :: ·) <$> (item v).under (.index i) <*> itemsFrom item (i + 1) rest

/-- A list. -/
def list {α : Type} (item : Decoder α) : Decoder (List α)
  | .list vs => itemsFrom item 0 vs
  | _ => .fault .listType

/-- A value that may be null. -/
def nullable {α : Type} (decode : Decoder α) : Decoder (Option α)
  | .null => .valid none
  | v => some <$> decode v

/-- Null or a value, null standing for a default. -/
def nullAs {α : Type} (default : α) (decode : Decoder α) : Decoder α
  | .null => .valid default
  | v => decode v

/-- The entry of an object under the first of several names that it has. -/
def findKey (names : List String) (o : Entries) : Option (String × Value) :=
  names.findSome? fun (name : String) => (o.get? name).map fun v => (name, v)

/-- A field that has to be there. It may have several names; the first of them is its own. -/
def required {α : Type} (names : List String) (decode : Decoder α) (o : Entries) : Checked α :=
  match findKey names o with
  | some (name, v) => (decode v).under (.key name)
  | none => .invalid [⟨[.key (names.headD "")], .missing⟩]

/-- A field that may be absent. -/
def optional {α : Type} (names : List String) (default : α) (decode : Decoder α) (o : Entries) :
    Checked α :=
  match findKey names o with
  | some (name, v) => (decode v).under (.key name)
  | none => .valid default

/-- A record, read from an object; `kind` is the fault of anything else. -/
def record {α : Type} (kind : IssueKind) (fields : Entries → Checked α) : Decoder α
  | .object es => fields es
  | _ => .fault kind

end Cascade.Payload
