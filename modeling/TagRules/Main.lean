/-
# The program

Reads files and standard input, writes what a run of the program leaves behind, and
returns its exit code.
-/
import TagRules.CommandLine.Run
import TagRules.Pattern.Engine

namespace TagRules.CommandLine

/-- Why a file could not be read, going by what the system says. -/
def FileError.ofSystem : IO.Error → FileError
  | .noFileOrDirectory .. => .missing
  | .inappropriateType _ 21 _ => .isDirectory
  | .inappropriateType .. => .notDirectory
  | _ => .notText

def readText (path : String) : IO (Except FileError String) := do
  try
    let text ← IO.FS.readFile path
    pure (.ok text)
  catch e => pure (.error (.ofSystem e))

/-- Whether a path leads to a file, be it a text or not. -/
def leadsToFile (path : String) : IO Bool := do
  match ← readText path with
  | .ok _ | .error .notText => pure true
  | .error _ => pure false

/-- Read standard input, which has to be a text. -/
def readStandardInput : IO (Except FileError String) := do
  let bytes ← (← IO.getStdin).readBinToEnd
  match String.fromUTF8? bytes with
  | some text => pure (.ok text)
  | none => pure (.error .notText)

/-- Whether text is painted: if it is asked for, or the output is a terminal and colours
are not turned off. -/
def wantsColours : IO Bool := do
  if (← IO.getEnv "CLICOLOR_FORCE").any (· ≠ "0") then pure true
  else if (← IO.getEnv "NO_COLOR").isSome then pure false
  else (← IO.getStdout).isTty

/-- The world in which the program runs. -/
def systemHost : IO (Host IO) := do
  let current ← IO.currentDir
  let home ← IO.getEnv "HOME"
  let colours ← wantsColours
  pure {
    current := toString current
    home := home.getD "~"
    colours
    isFile := leadsToFile
    read := readText
    standardInput := readStandardInput }

end TagRules.CommandLine

open TagRules.CommandLine in
def main (arguments : List String) : IO UInt32 := do
  let outcome ← run .engine (← systemHost) arguments
  IO.print outcome.output
  match outcome.error with
  | some error => IO.eprintln ("Error: " ++ error)
  | none => pure ()
  pure outcome.code.toUInt32
