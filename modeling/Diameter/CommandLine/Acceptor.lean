import Diameter.CommandLine.Arguments
import Diameter.Daemon.Run
import Diameter.Settings.Rules

/-!
# The command that runs the daemon

The command loads its settings, or takes the defaults if no file is named. It either says
that they are good or runs a daemon on them.
-/

namespace Diameter

/-- What a command leaves behind. -/
structure CommandOutput where
  /-- The exit code. -/
  code : Nat
  /-- What it prints. -/
  out : String
  /-- What it prints about errors. -/
  err : String
  deriving DecidableEq, Repr

namespace Acceptor

/-- The name of the command. -/
def name : String := "diameterd"

/-- The version of the command. -/
def version : String := "0.1.0"

/-- The flags of the command. -/
def flags : List Flag :=
  [⟨"config", some 'c', .value "CONFIG" (!·.isEmpty)⟩,
    ⟨"check", none, .switch⟩,
    ⟨"help", some 'h', .help⟩,
    ⟨"version", some 'V', .version⟩]

/-- How the command is used. -/
def usage : String := s!"Usage: {name} [OPTIONS]\n"

/-- The explanation of the command. -/
def helpText : String :=
  "Diameter connection acceptor\n\n" ++ usage ++ "\nOptions:\n" ++
    "  -c, --config <CONFIG>  Configuration file (TOML). Defaults apply when omitted\n" ++
    "      --check            Validate the configuration and exit\n" ++
    "  -h, --help             Print help\n" ++
    "  -V, --version          Print version\n"

/-- What the command leaves behind if its arguments end it. -/
def stopped : ArgumentStop → CommandOutput
  | .help => ⟨0, helpText, ""⟩
  | .version => ⟨0, s!"{name} {version}\n", ""⟩
  | .wrong e =>
    let hint := "For more information, try '--help'.\n"
    ⟨2, "", s!"error: {e.message}\n\n" ++ (if e.showsUsage then usage ++ "\n" else "") ++ hint⟩

/-- What the command is asked to do. -/
structure Request where
  /-- The file with the settings, if one is named. -/
  config : Option String
  /-- Whether the settings are only to be checked. -/
  checkOnly : Bool
  deriving DecidableEq, Repr

/-- What the arguments ask for. -/
def request (arguments : List String) : Except CommandOutput Request :=
  match Arguments.read flags arguments with
  | .error stop => .error (stopped stop)
  | .ok given => .ok ⟨given.lookup "config", (given.lookup "check").isSome⟩

/-- The settings that a request names. -/
def settings (files : FileReader) (r : Request) : Except CommandOutput Settings :=
  match r.config with
  | none => .ok .default
  | some path =>
    match Settings.ofFile (files path) with
    | .ok s => .ok s
    | .error e =>
      let cause := e.message?.getD "Parse error"
      .error ⟨1, "", s!"{name}: {path}: {cause}\n"⟩

/-- The file with settings that the arguments name. -/
def configPaths (arguments : List String) : List String :=
  match request arguments with
  | .ok r => r.config.toList
  | .error _ => []

/-- The files with credentials that the settings name. -/
def credentialPaths (files : FileReader) (arguments : List String) : List String :=
  let found := do settings files (← request arguments)
  match found with
  | .ok s => (s.tls.map fun t => [t.certPath, t.keyPath] ++ t.caPath.toList).getD []
  | .error _ => []

/-- Runs the command without ever sending it a signal. Nothing is returned if the daemon
goes on. -/
def run (machine : Machine) (arguments : List String) : Option CommandOutput :=
  let prepared := do
    let r ← request arguments
    return (r.checkOnly, ← settings machine.files r)
  match prepared with
  | .error output => some output
  | .ok (true, _) => some ⟨0, "configuration OK\n", ""⟩
  | .ok (false, s) =>
    (Daemon.run machine s none).map fun ending =>
      match ending.result with
      | .ok _ => ⟨0, "", ""⟩
      | .error e => ⟨1, "", s!"{name}: {e.message}\n"⟩

end Acceptor

end Diameter
