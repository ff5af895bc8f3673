import AliasReader.Reader.Sentinel
import AliasReader.Report.Terminal

/-!
# Options of `read`

The arguments of the `read` command: one path and any number of options, in any order. Each
argument is understood on its own; of repeated options the last one counts.
-/

namespace AliasReader

/-- What the `read` command is asked to do. -/
structure ReadOptions where
  /-- The path of the script. -/
  path : String
  /-- The settings of the sentinel. -/
  config : SentinelConfig
  /-- When to colour the report of a failure. -/
  color : ColorMode
deriving DecidableEq, Repr

/-- Why arguments of the `read` command are refused. -/
inductive OptionFailure where
  /-- The trigger is not exactly one character, or is white space. -/
  | badTrigger (given : String)
  /-- There is no such case policy. -/
  | unknownCase (given : String)
  /-- There is no such option. -/
  | unknownOption (argument : String)
  /-- The argument is a second path. -/
  | unexpectedArgument (argument : String)
  /-- There is no path. -/
  | missingPath
deriving DecidableEq, Repr

namespace OptionFailure

/-- What is wrong with the arguments. -/
def message : OptionFailure → String
  | badTrigger given => "--trigger expects a single character, got `" ++ given ++ "`"
  | unknownCase given =>
      "unknown case mode `" ++ given ++ "` (expected upcase, downcase, preserve or invert)"
  | unknownOption argument => "unknown option `" ++ argument ++ "`"
  | unexpectedArgument argument => "unexpected argument `" ++ argument ++ "`"
  | missingPath => "missing file path"

end OptionFailure

/-- The meaning of one argument. -/
inductive ReadArgument where
  /-- The trigger of the sentinel. -/
  | trigger (c : Char)
  /-- The case policy. -/
  | case (policy : CasePolicy)
  /-- No colours. -/
  | noColor
  /-- The path of the script. -/
  | path (text : String)
deriving DecidableEq, Repr

namespace ReadArgument

/-- Understand one argument. -/
def parse (argument : String) : Except OptionFailure ReadArgument :=
  let written := argument.toList
  match "--trigger=".toList.isPrefixOf? written with
  | some [c] =>
      if Unicode.isWhitespace c then .error (.badTrigger (String.ofList [c]))
      else .ok (trigger c)
  | some given => .error (.badTrigger (String.ofList given))
  | none =>
      match "--case=".toList.isPrefixOf? written with
      | some given =>
          match CasePolicy.ofName? (String.ofList given) with
          | some policy => .ok (case policy)
          | none => .error (.unknownCase (String.ofList given))
      | none =>
          if argument = "--no-color" then .ok noColor
          else if written.head? = some '-' then .error (.unknownOption argument)
          else .ok (path argument)

end ReadArgument

namespace ReadOptions

/-- What is known of the options while arguments are gone through. -/
structure Draft where
  /-- The path, if there was one. -/
  path : Option String := none
  /-- The settings so far. -/
  config : SentinelConfig := {}
  /-- When to colour, so far. -/
  color : ColorMode := .auto
deriving DecidableEq, Repr

/-- Take one argument into account. -/
def Draft.add (draft : Draft) : ReadArgument → Except OptionFailure Draft
  | .trigger c => .ok { draft with config := { draft.config with trigger := c } }
  | .case policy => .ok { draft with config := { draft.config with case := policy } }
  | .noColor => .ok { draft with color := .never }
  | .path text =>
      match draft.path with
      | none => .ok { draft with path := some text }
      | some _ => .error (.unexpectedArgument text)

/-- Take arguments into account, from left to right. -/
def Draft.addAll (draft : Draft) : List String → Except OptionFailure Draft
  | [] => .ok draft
  | argument :: rest =>
      match ReadArgument.parse argument with
      | .error failure => .error failure
      | .ok meaning =>
          match draft.add meaning with
          | .error failure => .error failure
          | .ok draft => draft.addAll rest

/-- Understand the arguments of the `read` command. -/
def parse (arguments : List String) : Except OptionFailure ReadOptions :=
  match (({} : Draft).addAll arguments) with
  | .error failure => .error failure
  | .ok draft =>
      match draft.path with
      | none => .error .missingPath
      | some path => .ok ⟨path, draft.config, draft.color⟩

end ReadOptions

end AliasReader
