import EnvAudit.CommandLine.Parameter
import EnvAudit.Text.Likeness
import EnvAudit.Text.Terminal

/-!
# Refusals of the command line

A command line asks for help or for the version, or something is wrong with it.
Either way there is a text to show, and nothing is checked.
-/

namespace EnvAudit

namespace CommandLine

/-- Why there is nothing to run. -/
inductive Refusal where
  | helpWanted
  | versionWanted
  /-- The parameter needs a value that is not empty. -/
  | valueMissing (slot : Slot)
  /-- The value is none of those that the parameter may have. -/
  | valueUnknown (slot : Slot) (value : String)
  | repeated (parameter : Parameter)
  /-- The parameters exclude each other; all but the latter are given in
  `used`. -/
  | conflict (former latter : Parameter) (used : List Parameter)
  /-- The flag has got a value.  Other parameters have been taken in before, or
  it is the first. -/
  | valueUnneeded (flag : Flag) (value : String) (isFirst : Bool)
  /-- No parameter has the name, but perhaps one is alike. -/
  | nameUnknown (name : String) (alike : Option Parameter) (used : List Parameter)
  | letterUnknown (letter : Char)
  /-- There is a path already. -/
  | surplus (value : String)
  deriving BEq, DecidableEq, Repr, Inhabited

/-- The name of the program. -/
def programName : String := "envcheck"

/-- The version of the program. -/
def programVersion : String := "0.1.0"

/-- The line about the use of the program with the given words. -/
def usageOf (words : List String) : String :=
  "Usage: " ++ " ".intercalate (programName :: words)

/-- How the program is used with the given parameters. -/
def usage (used : List Parameter) : String :=
  let path := Parameter.slot .path
  if used = [] then
    usageOf ["[OPTIONS]", path.shown]
  else
    let options := used.filter fun parameter => parameter ≠ path
    usageOf <| options.map Parameter.shown ++
      [if used.contains path then s!"<{path.shownBare}>" else path.shown]

/-- How the program is used with a flag behind other parameters: any of those that
a run may have stands for all of them. -/
def usageBehindOthers (flag : Flag) : String :=
  let options := [Parameter.flag flag].filter fun parameter =>
    !Parameter.alternatives.contains parameter
  let choice := "|".intercalate (Parameter.alternatives.map Parameter.shownBare)
  usageOf (options.map Parameter.shown ++ [s!"<{choice}>"])

/-- A parameter with its letter and its name, as help shows it. -/
def signature (parameter : Parameter) : String :=
  match parameter.short? with
  | some letter => s!"  -{letter}, {parameter.shown}"
  | none => s!"      {parameter.shown}"

/-- The text with blanks behind it up to the given length. -/
def padTo (width : Nat) (text : String) : String :=
  text ++ String.ofList (List.replicate (width - text.length) ' ')

/-- The text that explains the program. -/
def help : String :=
  let width := (Parameter.named.map fun parameter => (signature parameter).length).foldl max 0
  let path := Parameter.slot .path
  "\n".intercalate ([
    "Report environment variables referenced in JavaScript/TypeScript sources that are not set",
    "",
    usage [],
    "",
    "Arguments:",
    s!"  {path.shown}  {path.purpose}",
    "",
    "Options:"] ++
    Parameter.named.map (fun parameter =>
      padTo width (signature parameter) ++ "  " ++ parameter.purpose) ++
    [""])

namespace Refusal

/-- The program ends without a failure. -/
def isRequested : Refusal → Bool
  | helpWanted | versionWanted => true
  | _ => false

/-- The line about the values that a parameter may have. -/
def choicesLine (slot : Slot) : String :=
  if slot.choices.isEmpty then
    ""
  else
    "\n  [possible values: " ++ ", ".intercalate slot.choices ++ "]"

/-- A tip on a line of its own. -/
def tip (text : String) : String :=
  s!"\n\n  tip: {text}"

/-- The tip to mark what looks like a parameter as a value. -/
def escapeTip (argument : String) : String :=
  tip s!"to pass '{argument}' as a value, use '-- {argument}'"

/-- What is wrong, with tips.  Texts that the caller gave are shown as a terminal
would show them. -/
def complaint : Refusal → String
  | helpWanted | versionWanted => ""
  | valueMissing slot =>
      s!"a value is required for '{(Parameter.slot slot).shown}' but none was supplied" ++
        choicesLine slot
  | valueUnknown slot value =>
      let given := Text.Terminal.shown value
      s!"invalid value '{given}' for '{(Parameter.slot slot).shown}'" ++ choicesLine slot ++
        match Text.closest? value slot.choices with
        | some choice => tip s!"a similar value exists: '{choice}'"
        | none => ""
  | repeated parameter => s!"the argument '{parameter.shown}' cannot be used multiple times"
  | conflict former latter _ =>
      s!"the argument '{former.shown}' cannot be used with '{latter.shown}'"
  | valueUnneeded flag value _ =>
      let given := Text.Terminal.shown value
      s!"unexpected value '{given}' for '{(Parameter.flag flag).shown}' found; " ++
        "no more were expected"
  | nameUnknown name alike _ =>
      let given := Text.Terminal.shown s!"--{name}"
      s!"unexpected argument '{given}' found" ++
        match alike.bind Parameter.long? with
        | some long => tip s!"a similar argument exists: '--{long}'"
        | none => escapeTip given
  | letterUnknown letter =>
      let given := Text.Terminal.shown s!"-{letter}"
      s!"unexpected argument '{given}' found" ++ escapeTip given
  | surplus value => s!"unexpected argument '{Text.Terminal.shown value}' found"

/-- The line about the use of the program; the value of a parameter that may
have it is not explained. -/
def usageLine : Refusal → String
  | valueMissing _ | valueUnknown .. => ""
  | conflict _ _ used | nameUnknown _ _ used => "\n\n" ++ usage used
  | valueUnneeded flag _ isFirst =>
      "\n\n" ++ if isFirst then usage [.flag flag] else usageBehindOthers flag
  | _ => "\n\n" ++ usage []

/-- The text that is shown. -/
def text : Refusal → String
  | helpWanted => help
  | versionWanted => s!"{programName} {programVersion}\n"
  | refusal =>
      s!"error: {refusal.complaint}{refusal.usageLine}\n\nFor more information, try '--help'.\n"

end Refusal

end CommandLine

end EnvAudit
