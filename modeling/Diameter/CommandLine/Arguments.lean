/-!
# Arguments of a command

Arguments are read from left to right, and the first that ends the command decides. A flag
has a long name and may have a short one. A value follows its flag as the next argument, or
after an equals sign; it may stick to a short name, which may stand behind others. What
starts with a dash is never taken as a value of the flag before it.
-/

namespace Diameter

/-- What a flag does. -/
inductive FlagKind where
  /-- It ends the command with an explanation. -/
  | help
  /-- It ends the command with its version. -/
  | version
  /-- It is there or not. -/
  | switch
  /-- It has a value, which goes by a name and has to be accepted. -/
  | value (name : String) (accepts : String → Bool)

/-- A flag of a command. -/
structure Flag where
  /-- The long name. -/
  long : String
  /-- The short name, if it has one. -/
  short : Option Char
  /-- What it does. -/
  kind : FlagKind

/-- How a flag is shown. -/
def Flag.display (f : Flag) : String :=
  match f.kind with
  | .value name _ => s!"--{f.long} <{name}>"
  | _ => s!"--{f.long}"

/-- Why arguments are refused. -/
inductive ArgumentError where
  /-- An argument is neither a flag nor a value. -/
  | unexpected (argument : String)
  /-- A flag lacks its value. -/
  | missingValue (flag : Flag)
  /-- A value is not accepted. -/
  | badValue (flag : Flag) (value : String)
  /-- A flag without a value was given one. -/
  | surplusValue (flag : Flag) (value : String)
  /-- A flag is given twice. -/
  | repeated (flag : Flag)

namespace ArgumentError

/-- The wording of why arguments are refused. -/
def message : ArgumentError → String
  | unexpected argument => s!"unexpected argument '{argument}' found"
  | missingValue flag => s!"a value is required for '{flag.display}' but none was supplied"
  | badValue flag value => s!"invalid value '{value}' for '{flag.display}'"
  | surplusValue flag value =>
    s!"unexpected value '{value}' for '{flag.display}' found; no more were expected"
  | repeated flag => s!"the argument '{flag.display}' cannot be used multiple times"

/-- Whether the wording is followed by how the command is used. -/
def showsUsage : ArgumentError → Bool
  | missingValue _ | badValue .. => false
  | _ => true

end ArgumentError

/-- What ends a command before it starts. -/
inductive ArgumentStop where
  | help
  | version
  | wrong (error : ArgumentError)

/-- The flags that were given, by long name, with their values. A switch has an empty one. -/
abbrev GivenFlags := List (String × String)

namespace Arguments

/-- Adds a flag that has not been given before. -/
def add (given : GivenFlags) (flag : Flag) (value : String) : Except ArgumentStop GivenFlags :=
  if given.any (·.1 == flag.long) then .error (.wrong (.repeated flag))
  else .ok (given ++ [(flag.long, value)])

/-- Adds a flag with a value. -/
def addValue (given : GivenFlags) (flag : Flag) (accepts : String → Bool) (value : String) :
    Except ArgumentStop GivenFlags :=
  if accepts value then add given flag value
  else if value.isEmpty then .error (.wrong (.missingValue flag))
  else .error (.wrong (.badValue flag value))

/-- Whether an argument stands for flags. A single dash does not. -/
def isFlag (argument : String) : Bool := argument.startsWith "-" && argument != "-"

/-- A long name and what follows it behind an equals sign, if there is one. -/
def splitLong (text : List Char) : String × Option String :=
  let name := text.takeWhile (· != '=')
  match text.drop name.length with
  | [] => (String.ofList name, none)
  | _ :: value => (String.ofList name, some (String.ofList value))

/-- Reads a flag by its long name. It may still want its value. -/
def readLong (flags : List Flag) (given : GivenFlags) (text : List Char) :
    Except ArgumentStop (GivenFlags × Option Flag) :=
  let (name, value) := splitLong text
  match flags.find? (·.long == name) with
  | none => .error (.wrong (.unexpected s!"--{name}"))
  | some flag =>
    match flag.kind, value with
    | .value _ accepts, some value => (addValue given flag accepts value).map (·, none)
    | .value _ _, none => .ok (given, some flag)
    | _, some value => .error (.wrong (.surplusValue flag value))
    | .help, none => .error .help
    | .version, none => .error .version
    | .switch, none => (add given flag "").map (·, none)

/-- Reads flags by their short names. The last may still want its value. -/
def readShort (flags : List Flag) (given : GivenFlags) :
    List Char → Except ArgumentStop (GivenFlags × Option Flag)
  | [] => .ok (given, none)
  | c :: rest =>
    match flags.find? (·.short == some c) with
    | none => .error (.wrong (.unexpected s!"-{c}"))
    | some flag =>
      match flag.kind, rest with
      | .help, _ => .error .help
      | .version, _ => .error .version
      | .switch, rest =>
        match add given flag "" with
        | .error stop => .error stop
        | .ok given => readShort flags given rest
      | .value _ _, [] => .ok (given, some flag)
      | .value _ accepts, '=' :: value =>
        (addValue given flag accepts (String.ofList value)).map (·, none)
      | .value _ accepts, value =>
        (addValue given flag accepts (String.ofList value)).map (·, none)

/-- Reads an argument that is not the value of a flag. Two dashes end the flags; nothing may
follow them. -/
def readOne (flags : List Flag) (given : GivenFlags) (argument : String) (rest : List String) :
    Except ArgumentStop (GivenFlags × Option Flag) :=
  match argument.toList, rest with
  | ['-', '-'], [] => .ok (given, none)
  | ['-', '-'], next :: _ => .error (.wrong (.unexpected next))
  | '-' :: '-' :: name, _ => readLong flags given name
  | '-' :: c :: names, _ => readShort flags given (c :: names)
  | _, _ => .error (.wrong (.unexpected argument))

/-- Reads the arguments that follow. The flag `wanting`, if there is one, takes the next as
its value. -/
def readFrom (flags : List Flag) (given : GivenFlags) (wanting : Option Flag) :
    List String → Except ArgumentStop GivenFlags
  | [] =>
    match wanting with
    | some flag => .error (.wrong (.missingValue flag))
    | none => .ok given
  | argument :: rest =>
    match wanting with
    | some flag =>
      match flag.kind with
      | .value _ accepts =>
        if isFlag argument then .error (.wrong (.missingValue flag))
        else
          match addValue given flag accepts argument with
          | .error stop => .error stop
          | .ok given => readFrom flags given none rest
      | _ => .error (.wrong (.surplusValue flag argument))
    | none =>
      match readOne flags given argument rest with
      | .error stop => .error stop
      | .ok (given, wanting) => readFrom flags given wanting rest

/-- Reads all arguments of a command. -/
def read (flags : List Flag) (arguments : List String) : Except ArgumentStop GivenFlags :=
  readFrom flags [] none arguments

end Arguments

end Diameter
