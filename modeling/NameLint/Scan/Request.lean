import NameLint.Config.Basic
import NameLint.FileTree.Resolve

/-!
# Scan requests

What is to be scanned, and the checks of the paths that come before anything is read.
-/

namespace NameLint.Scan

open NameLint.FileTree

/-- What to scan, and the files that say how. -/
structure ScanRequest where
  paths : List Path
  config? : Option Path := none
  ignore? : Option Path := none
  deriving DecidableEq, Repr

/-- What is wrong with the paths of a request. -/
inductive RequestError where
  | noInput
  | scanPathMissing (path : Path)
  | configMissing (path : Path)
  | configNotFile (path : Path)
  | ignoreMissing (path : Path)
  | ignoreNotFile (path : Path)
  deriving DecidableEq, Repr

namespace RequestError

/-- The code of an error. -/
def code : RequestError → String
  | .noInput => "ccase::request::no_input"
  | .scanPathMissing _ => "ccase::request::scan_path_missing"
  | .configMissing _ => "ccase::request::config_missing"
  | .configNotFile _ => "ccase::request::config_not_file"
  | .ignoreMissing _ => "ccase::request::ignore_missing"
  | .ignoreNotFile _ => "ccase::request::ignore_not_file"

/-- The help line of an error. -/
def help? : RequestError → Option String
  | .noInput => some "pass one or more files or directories to scan"
  | .configMissing _ => some "create a .ccase-check file or pass --config=<path>"
  | _ => none

/-- The text of an error. -/
def message : RequestError → String
  | .noInput => "no input files specified"
  | .scanPathMissing path => "scan path does not exist: " ++ path
  | .configMissing path => "config path does not exist: " ++ path
  | .configNotFile path => "config path is not a file: " ++ path
  | .ignoreMissing path => "ignore file does not exist: " ++ path
  | .ignoreNotFile path => "ignore path is not a file: " ++ path

end RequestError

namespace ScanRequest

/-- The path of the configuration. -/
def configPath (r : ScanRequest) : Path := r.config?.getD Config.defaultPath

/-- Checks that there are paths to scan and that all of them exist. -/
def checkPaths (r : ScanRequest) (t : Tree) : Except RequestError Unit :=
  if r.paths.isEmpty then .error .noInput
  else
    match r.paths.find? fun path => !t.pathExists path with
    | some path => .error (.scanPathMissing path)
    | none => .ok ()

/-- Checks that the configuration is a file. -/
def checkConfig (r : ScanRequest) (t : Tree) : Except RequestError Unit :=
  if !t.pathExists r.configPath then .error (.configMissing r.configPath)
  else if !t.isFile r.configPath then .error (.configNotFile r.configPath)
  else .ok ()

/-- Checks that the ignore file, if there is one, is a file. -/
def checkIgnore (r : ScanRequest) (t : Tree) : Except RequestError Unit :=
  match r.ignore? with
  | none => .ok ()
  | some path =>
    if !t.pathExists path then .error (.ignoreMissing path)
    else if !t.isFile path then .error (.ignoreNotFile path)
    else .ok ()

/-- Checks the paths to scan, the configuration and the ignore file, in this order. -/
def validate (r : ScanRequest) (t : Tree) : Except RequestError Unit := do
  r.checkPaths t
  r.checkConfig t
  r.checkIgnore t

end ScanRequest

end NameLint.Scan
