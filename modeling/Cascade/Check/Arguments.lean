import Cascade.Files.Path
import Cascade.Text.Word

/-!
# Arguments of the rule check

The check is given files and options in any order. A long option may be cut short as long as one
option begins so; options take no values. After two dashes everything is a file. The files have to
stand together: no option may part them.

What looks like a negative number or holds a blank is a file even behind a dash. A request for help
counts if nothing before it is at fault.
-/

namespace Cascade

/-- The options. -/
inductive CheckOption where
  | help
  | json
  | lenient
  deriving Repr, DecidableEq

/-- The long names of options. -/
def CheckOption.longNames : List (List Char × CheckOption) :=
  [("--help".toList, .help), ("--json".toList, .json), ("--lenient".toList, .lenient)]

/-- The names of options. -/
def CheckOption.names : List (List Char × CheckOption) := (['-', 'h'], .help) :: longNames

/-- What an argument is. -/
inductive Argument where
  | file (name : List Char)
  | option (o : CheckOption)
  /-- An option with a value, which none takes. -/
  | valued
  /-- The beginning of several options. -/
  | ambiguous
  | unknown
  deriving Repr, DecidableEq

namespace Argument

/-- Whether a text is a negative number: a dash and digits, with a point before the last of them or
none; a line feed may follow. -/
def isNegativeNumber (s : List Char) : Bool :=
  match s with
  | '-' :: rest =>
    let digits := if rest.getLast? = some '\n' then rest.dropLast else rest
    let behind := digits.dropWhile Text.isDecimal
    match behind with
    | [] => !digits.isEmpty
    | '.' :: fraction => !fraction.isEmpty && fraction.all Text.isDecimal
    | _ => false
  | _ => false

/-- What follows the short name of the request for help in the same argument. -/
def afterHelp : List Char → Argument
  | '-' :: _ => .valued
  | ['h'] => .option .help
  | 'h' :: '=' :: _ => .valued
  | 'h' :: rest => afterHelp rest
  | _ => .option .help

/-- An argument that begins with a dash and is no option by its full name. -/
def ofDashed (s : List Char) : Argument :=
  let hasValue := s.contains '='
  let name := s.takeWhile (· ≠ '=')
  let other : Argument := if isNegativeNumber s || s.contains ' ' then .file s else .unknown
  match s with
  | ['-'] => .file s
  | '-' :: '-' :: _ =>
    match CheckOption.longNames.filter fun (long, _) => name.isPrefixOf long with
    | [] => other
    | [(_, o)] => if hasValue then .valued else .option o
    | _ => .ambiguous
  | '-' :: 'h' :: rest => if hasValue && name = ['-', 'h'] then .valued else afterHelp rest
  | _ => other

/-- What a text is as an argument. -/
def ofText (s : List Char) : Argument :=
  match s, CheckOption.names.lookup s with
  | _, some o => .option o
  | '-' :: _, none => ofDashed s
  | _, none => .file s

/-- The name of a file, if the argument is one. -/
def file? : Argument → Option (List Char)
  | .file name => some name
  | _ => none

end Argument

/-- What the arguments ask for. -/
structure CheckRequest where
  files : List Path
  asJson : Bool := false
  lenient : Bool := false
  deriving Repr, DecidableEq

/-- Why there is nothing to check. -/
inductive CheckRefusal where
  /-- Help was asked for. -/
  | help
  /-- The arguments are at fault. -/
  | usage
  deriving Repr, DecidableEq

namespace CheckRequest

/-- The separator behind which everything is a file. -/
def separator : List Char := ['-', '-']

/-- What an argument has to say before all others are looked at. -/
def refusal? : Argument → Option CheckRefusal
  | .option .help => some .help
  | .valued => some .usage
  | _ => none

/-- The files among arguments, `none` standing for an option; there must be some, and no option
between them. -/
def filesTogether? (arguments : List (Option (List (List Char)))) : Option (List (List Char)) :=
  let run := arguments.dropWhile Option.isNone
  let files := (run.takeWhile Option.isSome).filterMap id |>.flatten
  if files.isEmpty || (run.dropWhile Option.isSome).any Option.isSome then none else some files

/-- What arguments ask for. -/
def ofArguments (texts : List (List Char)) : Except CheckRefusal CheckRequest :=
  let arguments := (texts.takeWhile (· ≠ separator)).map Argument.ofText
  let afterSeparator :=
    match texts.dropWhile (· ≠ separator) with
    | [] => []
    | _ :: files => [some files]
  if arguments.contains .ambiguous then .error .usage
  else
    match arguments.findSome? refusal? with
    | some refusal => .error refusal
    | none =>
      let positions := arguments.map fun a => a.file?.map fun name => [name]
      match filesTogether? (positions ++ afterSeparator) with
      | some files =>
        if arguments.contains .unknown then .error .usage
        else
          .ok {
            files := files.map Path.ofText
            asJson := arguments.contains (.option .json)
            lenient := arguments.contains (.option .lenient) }
      | none => .error .usage

end CheckRequest

end Cascade
