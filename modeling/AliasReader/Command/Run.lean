import AliasReader.Command.Options
import AliasReader.Script.Session

/-!
# Commands

What each command prints, and the code it ends with. The contents of files come from a
function on paths.
-/

namespace AliasReader

/-- What a command leaves. -/
structure CommandResult where
  /-- The exit code. -/
  code : Nat
  /-- The text for standard output. -/
  stdout : String
  /-- The text for standard error. -/
  stderr : String
deriving DecidableEq, Repr

/-- Why a file cannot be read. -/
inductive FileFailure where
  /-- There is no such file. -/
  | notFound
  /-- The path leads to a directory. -/
  | isDirectory
  /-- The path goes on behind something that is no directory. -/
  | notDirectory
  /-- The file may not be read. -/
  | permissionDenied
  /-- The bytes of the file encode no text. -/
  | notText
  /-- Any other reason, as the system words it. -/
  | other (message : String)
deriving DecidableEq, Repr

namespace FileFailure

/-- Why the file cannot be read, in the words of the system. -/
def message : FileFailure → String
  | notFound => "No such file or directory (os error 2)"
  | isDirectory => "Is a directory (os error 21)"
  | notDirectory => "Not a directory (os error 20)"
  | permissionDenied => "Permission denied (os error 13)"
  | notText => "stream did not contain valid UTF-8"
  | other message => message

end FileFailure

namespace Command

/-- Lines of text, each of them ended. -/
def lines (texts : List String) : String :=
  String.join (texts.map (· ++ "\n"))

/-- How to use the program. -/
def usage : String :=
  lines
    ["Nick reader driver",
      "",
      "Usage: nickc <command> [options]",
      "",
      "Commands:",
      "  read <file>       Read a script and print every datum",
      "  explain <code>    Explain an error code (e.g., E0102)",
      "  help              Show this help message",
      "  version           Show version information",
      "",
      "Read options:",
      "  --trigger=<char>  Sentinel character (default: $)",
      "  --case=<mode>     upcase, downcase, preserve or invert (default: upcase)",
      "  --no-color        Disable colored diagnostics",
      "",
      "Set RUST_LOG (e.g. RUST_LOG=nick_alias=debug) to trace reading."]

/-- The name and version of the program. -/
def version : String := "nickc 0.1.0"

/-- Describe an error code. -/
def explain : List String → CommandResult
  | [] => ⟨1, "", lines ["Usage: nickc explain <ERROR_CODE>", "Example: nickc explain E0104"]⟩
  | written :: _ =>
      match ReportCode.parse? written with
      | some code => ⟨0, lines [code.text ++ ": " ++ code.description], ""⟩
      | none =>
          ⟨1, "",
            lines
              ["Unknown error code: " ++ written,
                "",
                "Codes have the format E00XX (reader) or E01XX (aliased references).",
                "Examples: E0002, E0102, E0104"]⟩

/-- Run a script in a new session. `terminal` says whether standard error is shown in a
terminal. -/
def runScript (options : ReadOptions) (terminal : Bool) (source : String) : CommandResult :=
  let run := (Session.start options.config).run source
  match run.ending with
  | .failed failure =>
      let report := Terminal.render (options.color.applies terminal) (some source)
        failure.diagnostic
      ⟨1, lines run.lines, report.getD ""⟩
  | .finished => ⟨0, lines run.lines, ""⟩
  | .dangling | .exhausted => ⟨1, lines run.lines, ""⟩

/-- Read a script and print every datum. -/
def read (arguments : List String) (terminal : Bool)
    (readFile : String → Except FileFailure String) : CommandResult :=
  match ReadOptions.parse arguments with
  | .error failure =>
      ⟨1, "",
        lines
          ["error: " ++ failure.message,
            "",
            "Usage: nickc read <file> [--trigger=C] [--case=MODE] [--no-color]"]⟩
  | .ok options =>
      match readFile options.path with
      | .error failure =>
          ⟨1, "", lines ["error: cannot read " ++ options.path ++ ": " ++ failure.message]⟩
      | .ok source => runScript options terminal source

/-- The path of the file that the arguments ask to read. -/
def path? : List String → Option String
  | "read" :: arguments =>
      match ReadOptions.parse arguments with
      | .ok options => some options.path
      | .error _ => none
  | _ => none

/-- Run the command that the arguments ask for. -/
def run (arguments : List String) (terminal : Bool)
    (readFile : String → Except FileFailure String) : CommandResult :=
  match arguments with
  | [] => ⟨0, usage, ""⟩
  | command :: rest =>
      if command = "read" then read rest terminal readFile
      else if command = "explain" || command = "--explain" then explain rest
      else if command = "help" || command = "--help" || command = "-h" then ⟨0, usage, ""⟩
      else if command = "version" || command = "--version" || command = "-V" then
        ⟨0, lines [version], ""⟩
      else ⟨1, usage, lines ["Unknown command: " ++ command, ""]⟩

end Command

end AliasReader
