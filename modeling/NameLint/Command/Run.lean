import NameLint.Command.Options
import NameLint.Config.Load
import NameLint.Scan.Request
import NameLint.Scan.Scanner

/-!
# Runs

A run reads its arguments, checks the paths, loads the configuration and the ignore file, scans, and renders
the report. The first stage that fails decides how it ends.
-/

namespace NameLint.Command

open NameLint.Config NameLint.FileTree NameLint.Ignore NameLint.Report NameLint.Scan

/-- Why a scan that was asked for gives no report. -/
inductive Fatal where
  | repeatedConfig (count : Nat)
  | repeatedIgnore (count : Nat)
  | request (e : RequestError)
  | config (e : ConfigError)
  | ignore (e : IgnoreError)
  | scan (e : ScanError)
  deriving DecidableEq, Repr

namespace Fatal

/-- The code of an error. -/
def code : Fatal → String
  | .repeatedConfig _ => "ccase::cli::duplicate_config"
  | .repeatedIgnore _ => "ccase::cli::duplicate_ignore"
  | .request e => e.code
  | .config e => e.code
  | .ignore e => e.code
  | .scan e => e.code

/-- The help line of an error. -/
def help? : Fatal → Option String
  | .repeatedConfig _ => some "pass a single configuration file"
  | .repeatedIgnore _ => some "merge the rules into a single ignore file"
  | .request e => e.help?
  | .config e => e.help?
  | .ignore e => e.help?
  | .scan e => e.help?

/-- The text of an error. -/
def message : Fatal → String
  | .repeatedConfig count => "--config given " ++ toString count ++ " times"
  | .repeatedIgnore count => "--ignore given " ++ toString count ++ " times"
  | .request e => e.message
  | .config e => e.message
  | .ignore e => e.message
  | .scan e => e.message

/-- How a run with an error ends. -/
def exit : Fatal → Exit
  | .repeatedConfig _ => .repeatedConfig
  | .repeatedIgnore _ => .repeatedIgnore
  | .request .noInput => .noInput
  | .request (.scanPathMissing _) => .scanPathMissing
  | .request (.configMissing _) => .configMissing
  | .request (.configNotFile _) => .configNotFile
  | .request (.ignoreMissing _) => .ignoreMissing
  | .request (.ignoreNotFile _) => .ignoreNotFile
  | .config _ => .invalidConfig
  | .ignore _ => .invalidIgnore
  | .scan _ => .broken

end Fatal

namespace Options

/-- The request that options make: one configuration and one ignore file at most. -/
def request (o : Options) : Except Fatal ScanRequest :=
  if 1 < o.configs.length then .error (.repeatedConfig o.configs.length)
  else if 1 < o.ignores.length then .error (.repeatedIgnore o.ignores.length)
  else .ok ⟨o.paths, o.configs.head?, o.ignores.head?⟩

/-- The scan that options ask for. -/
def scan (o : Options) (t : Tree) : Except Fatal ScanReport := do
  let request ← o.request
  (request.validate t).mapError .request
  let config ← (Configuration.load t request.configPath).mapError .config
  let filter ← match request.ignore? with
    | some path => (IgnoreFilter.load t path).mapError .ignore
    | none => pure .none
  let scanner : Scanner := { config, filter, strict := o.strict }
  (scanner.scan t request.paths).mapError .scan

end Options

/-- How a run ends, what it prints, and what it complains of. -/
structure Outcome where
  exit : Exit
  output : String := ""
  complaint : String := ""
  deriving DecidableEq, Repr

/-- The version as it is shown. -/
def versionText : String := "ccase-check version 0.1.0\n"

/-- The help as it is shown. -/
def helpText : String :=
  String.join ([
    "CLI tool for the ccase-check naming-convention linter",
    "",
    "Usage: ccase-check [OPTIONS] [PATH]...",
    "",
    "Arguments:",
    "  [PATH]...  Files or directories to scan",
    "",
    "Options:",
    "      --config <PATH>    Configuration file (default: .ccase-check)",
    "      --ignore <PATH>    File of gitignore-style rules for paths to leave out",
    "  -f, --format <FORMAT>  Output format [default: text] [possible values: text, compact, json]",
    "  -j, --jobs <N>         Worker threads (0 = one per CPU) [default: 0]",
    "      --strict-symlinks  Treat a directory reached twice through symbolic links as an error",
    "  -v, --verbose          Enable verbose output",
    "  -h, --help             Print help",
    "  -V, --version          Print version"].map (· ++ "\n"))

/-- What a run without a scan prints and complains of. -/
def Stop.outcome (s : Stop) : Outcome :=
  match s with
  | .helpShown => ⟨s.exit, helpText, ""⟩
  | .versionShown => ⟨s.exit, versionText, ""⟩
  | .unknownArgument => ⟨s.exit, "", "unexpected argument"⟩
  | .argumentConflict => ⟨s.exit, "", "an argument cannot be used with another or again"⟩
  | .invalidValue => ⟨s.exit, "", "a value is missing or invalid"⟩

/-- How a run with a report ends. -/
def exitOfReport (r : ScanReport) : Exit := if r.hasViolations then .violations else .success

/-- Runs the program with some arguments on a file tree. -/
def run (t : Tree) (args : List String) : Outcome :=
  match Options.ofArguments args with
  | .error stop => stop.outcome
  | .ok o =>
    match o.scan t with
    | .error e => ⟨e.exit, "", e.message⟩
    | .ok report => ⟨exitOfReport report, report.render o.format false, ""⟩

end NameLint.Command
