import Cascade.Check.Report

/-!
# The command that checks rule files

Reads the files that the arguments name and prints the report on them.
-/

namespace Cascade.Command

/-- What is said of the arguments. -/
def usageText : String := "usage: cascade [-h] [--json] [--lenient] files [files ...]"

/-- What is said to those who ask for help. -/
def helpText : String :=
  usageText ++ "\n\nValidate work item automation rule files.\n\n" ++
    "positional arguments:\n  files       Rule files to validate\n\n" ++
    "options:\n  -h, --help  show this help message and exit\n" ++
    "  --json      Print the parsed rules as JSON\n" ++
    "  --lenient   Drop unrecognised conditions/actions instead of failing\n"

/-- The number and the words of an error of the system. -/
def systemError : IO.Error → Nat × String
  | .alreadyExists _ code words | .interrupted _ code words | .noFileOrDirectory _ code words
  | .invalidArgument _ code words | .permissionDenied _ code words
  | .resourceExhausted _ code words | .inappropriateType _ code words
  | .noSuchThing _ code words | .otherError code words | .resourceBusy code words
  | .resourceVanished code words | .unsupportedOperation code words | .hardwareFault code words
  | .unsatisfiedConstraints code words | .illegalOperation code words | .protocolError code words
  | .timeExpired code words => (code.toNat, words)
  | .unexpectedEof => (0, "unexpected end of file")
  | .userError words => (0, words)

/-- The fault that an error of the system stands for. -/
def fileFaultOf (e : IO.Error) : FileFault :=
  match systemError e with
  | (2, _) => .missing
  | (20, _) => .notFolder
  | (21, _) => .isFolder
  | (36, _) => .nameTooLong
  | (number, words) => .refused number words

/-- Reads a file. -/
def readFile (p : Path) : IO (Except FileFault (List UInt8)) := do
  try
    let bytes ← IO.FS.readBinFile (String.ofList p.text)
    return .ok bytes.toList
  catch e => return .error (fileFaultOf e)

/-- Why a check was ended. -/
def breakText : CheckBreak → String
  | .badPath => "the path of a file is not valid"
  | .undecodable => "a file is no text"
  | .refusedPattern _ => "a pattern cannot be used"

end Cascade.Command

open Cascade Command in
/-- Checks the rule files that the arguments name. -/
def main (arguments : List String) : IO UInt32 := do
  match CheckRequest.ofArguments (arguments.map String.toList) with
  | .error .help =>
    IO.print helpText
    return 0
  | .error .usage =>
    IO.eprintln usageText
    return 2
  | .ok request =>
    let contents ← request.files.mapM fun p => return (p, ← readFile p)
    let source : FileSource := fun p => (contents.lookup p).getD (.error .missing)
    let report := CheckReport.ofRequest source request
    IO.print report.output
    match report.ending with
    | .ok code => return UInt32.ofNat code
    | .error e =>
      IO.eprintln (breakText e)
      return 1
