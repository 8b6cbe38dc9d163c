import NameLint.Command.Exit
import NameLint.FileTree.Path
import NameLint.Report.Render

/-!
# Command lines

The arguments of the program, read from left to right. Values are looked at when the argument after them
is accepted, so that an unknown argument is told of before a malformed value in front of it.
-/

namespace NameLint.Command

open NameLint.FileTree NameLint.Report

/-- The options that take a value. -/
inductive ValueOption where
  | config | ignore | format | jobs
  deriving DecidableEq, Repr

/-- The options without a value. -/
inductive Flag where
  | strictLinks | verbose | help | version
  deriving DecidableEq, Repr

/-- An option of either kind. -/
inductive AnyOption where
  | valued (o : ValueOption)
  | flag (f : Flag)
  deriving DecidableEq, Repr

/-- The option with a long name. -/
def longOption? : String → Option AnyOption
  | "config" => some (.valued .config)
  | "ignore" => some (.valued .ignore)
  | "format" => some (.valued .format)
  | "jobs" => some (.valued .jobs)
  | "strict-symlinks" => some (.flag .strictLinks)
  | "verbose" => some (.flag .verbose)
  | "help" => some (.flag .help)
  | "version" => some (.flag .version)
  | _ => none

/-- The option with a one-letter name. -/
def shortOption? : Char → Option AnyOption
  | 'f' => some (.valued .format)
  | 'j' => some (.valued .jobs)
  | 'v' => some (.flag .verbose)
  | 'h' => some (.flag .help)
  | 'V' => some (.flag .version)
  | _ => none

/-- What a command line gives. -/
structure Given where
  paths : List Path := []
  configs : List Path := []
  ignores : List Path := []
  format? : Option OutputFormat := none
  jobs? : Option Nat := none
  flags : List Flag := []
  deriving DecidableEq, Repr

/-- The number that decimal digits give after an optional plus sign, if it fits into 64 bits. -/
def number? (text : String) : Option Nat :=
  let digits := match text.toList with
    | '+' :: rest => rest
    | cs => cs
  if digits.isEmpty || !digits.all Char.isDigit then none
  else
    let n := digits.foldl (fun n c => 10 * n + (c.toNat - '0'.toNat)) 0
    if n < UInt64.size then some n else none

namespace Given

/-- Adds the value of an option. The options that may be repeated take paths, and a path is not empty. -/
def addValue (g : Given) (o : ValueOption) (value : String) : Except Stop Given :=
  match o with
  | .config => if value.isEmpty then .error .invalidValue else .ok { g with configs := g.configs ++ [value] }
  | .ignore => if value.isEmpty then .error .invalidValue else .ok { g with ignores := g.ignores ++ [value] }
  | .format =>
    if g.format?.isSome then .error .argumentConflict
    else
      match OutputFormat.ofName? value with
      | none => .error .invalidValue
      | some format => .ok { g with format? := some format }
  | .jobs =>
    if g.jobs?.isSome then .error .argumentConflict
    else
      match number? value with
      | none => .error .invalidValue
      | some n => .ok { g with jobs? := some n }

/-- Adds an option without a value. -/
def addFlag (g : Given) (f : Flag) : Except Stop Given :=
  if g.flags.contains f then .error .argumentConflict else .ok { g with flags := g.flags ++ [f] }

/-- Adds paths to scan. -/
def addPaths (g : Given) (paths : List Path) : Except Stop Given :=
  if paths.any (·.isEmpty) then .error .invalidValue else .ok { g with paths := g.paths ++ paths }

/-- The number of different options given, all paths counting as one. -/
def count (g : Given) : Nat :=
  g.flags.length
    + ([!g.paths.isEmpty, !g.configs.isEmpty, !g.ignores.isEmpty, g.format?.isSome,
        g.jobs?.isSome].filter id).length

end Given

/-- What has been read but not been looked at. -/
inductive Unsettled where
  | nothing
  /-- An option whose value comes next. -/
  | option (o : ValueOption)
  /-- An option with its value. -/
  | value (o : ValueOption) (text : String)
  /-- Paths one after the other. -/
  | paths (texts : List String)

/-- Looks at what has been read. -/
def Given.settle (g : Given) : Unsettled → Except Stop Given
  | .nothing => .ok g
  | .option _ => .error .invalidValue
  | .value o text => g.addValue o text
  | .paths texts => g.addPaths texts

/-- Reads an option that is given with the text attached to it, if any. -/
def readOption (g : Given) (u : Unsettled) (o : AnyOption) (attached : Option String) :
    Except Stop (Given × Unsettled) :=
  match o, attached with
  | .flag _, some _ => .error .invalidValue
  | .flag f, none => do return (← (← g.settle u).addFlag f, .nothing)
  | .valued o, some value => do return (← (← g.settle u).addValue o value, .nothing)
  | .valued o, none => do return (← g.settle u, .option o)

/-- Reads one-letter options that stand together. What follows the letter of an option with a value is its
value, after an equals sign or directly. -/
def readLetters (g : Given) (u : Unsettled) : List Char → Except Stop (Given × Unsettled)
  | [] => .ok (g, u)
  | c :: rest =>
    match shortOption? c with
    | none => .error .unknownArgument
    | some (.flag f) => do
      let (g, u) ← readOption g u (.flag f) none
      readLetters g u rest
    | some (.valued o) =>
      match rest with
      | [] => readOption g u (.valued o) none
      | '=' :: value => readOption g u (.valued o) (some (String.ofList value))
      | value => readOption g u (.valued o) (some (String.ofList value))

/-- Reads the text of a long option, after the dashes. -/
def readLong (g : Given) (u : Unsettled) (text : List Char) : Except Stop (Given × Unsettled) :=
  let name := String.ofList (text.takeWhile (· != '='))
  let attached := match text.dropWhile (· != '=') with
    | [] => none
    | _ :: value => some (String.ofList value)
  match longOption? name with
  | none => .error .unknownArgument
  | some o => readOption g u o attached

/-- Reads an argument that is no option: the value that is awaited, or a path. -/
def readPlain (g : Given) (u : Unsettled) (onlyPaths : Bool) (arg : String) :
    Except Stop (Given × Unsettled) :=
  match u, onlyPaths with
  | .option o, false => .ok (g, .value o arg)
  | .paths texts, _ => .ok (g, .paths (texts ++ [arg]))
  | u, _ => do return (← g.settle u, .paths [arg])

/-- Reads the arguments. After `--` all are paths. -/
def readArguments (g : Given) (u : Unsettled) (onlyPaths : Bool) :
    List String → Except Stop Given
  | [] => g.settle u
  | arg :: rest =>
    if onlyPaths then do
      let (g, u) ← readPlain g u true arg
      readArguments g u true rest
    else
      match arg.toList with
      | ['-', '-'] => readArguments g u true rest
      | '-' :: '-' :: text => do
        let (g, u) ← readLong g u text
        readArguments g u false rest
      | '-' :: c :: letters => do
        let (g, u) ← readLetters g u (c :: letters)
        readArguments g u false rest
      | _ => do
        let (g, u) ← readPlain g u false arg
        readArguments g u false rest

/-- What a scan is asked for with. -/
structure Options where
  paths : List Path
  configs : List Path := []
  ignores : List Path := []
  format : OutputFormat := .text
  jobs : Nat := 0
  strict : Bool := false
  verbose : Bool := false
  deriving DecidableEq, Repr

/-- The options of a command line. Help and the version are shown only if nothing else is asked for. -/
def Options.ofArguments (args : List String) : Except Stop Options := do
  let g ← readArguments {} .nothing false args
  if g.flags.contains .help || g.flags.contains .version then
    if g.count > 1 then .error .argumentConflict
    else if g.flags.contains .help then .error .helpShown
    else .error .versionShown
  else
    return {
      paths := g.paths, configs := g.configs, ignores := g.ignores
      format := g.format?.getD .text, jobs := g.jobs?.getD 0
      strict := g.flags.contains .strictLinks, verbose := g.flags.contains .verbose }

end NameLint.Command
