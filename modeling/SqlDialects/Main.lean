import SqlDialects.CommandLine.Answer

namespace SqlDialects

open CommandLine

def readFailure : IO.Error → ReadFailure
  | .noFileOrDirectory .. => .missing
  | .permissionDenied _ number description | .inappropriateType _ number description
  | .invalidArgument _ number description | .resourceExhausted _ number description
  | .noSuchThing _ number description | .otherError number description =>
      .other number.toNat description
  | _ => .other 5 "Input/output error"

def readContents (path : String) : IO (Except ReadFailure String) := do
  try
    return textOf (← IO.FS.readBinFile path)
  catch e =>
    return .error (readFailure e)

end SqlDialects

def main (words : List String) : IO UInt32 := do
  let outcome ← SqlDialects.CommandLine.run SqlDialects.readContents words
  IO.print outcome.output
  if let some report := outcome.report then
    IO.eprintln report
  return outcome.exitCode.toUInt32
