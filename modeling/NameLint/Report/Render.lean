import NameLint.Report.Basic
import NameLint.Text.Hex

/-!
# Rendering reports

Three formats: text for people, one line for each violation and failure, and a JSON document.
-/

namespace NameLint.Report

open NameLint.Text

/-- The formats of a rendered report. -/
inductive OutputFormat where
  | text | compact | json
  deriving DecidableEq, Repr

/-- The format with a name. -/
def OutputFormat.ofName? : String → Option OutputFormat
  | "text" => some .text
  | "compact" => some .compact
  | "json" => some .json
  | _ => none

/-! ## JSON -/

/-- A JSON document of the kind that reports are written as. -/
inductive Json where
  | text (s : String)
  | number (n : Nat)
  | list (items : List Json)
  | object (fields : List (String × Json))

namespace Json

/-- A character inside a string: quotes, backslashes and control characters are escaped. -/
def escapeChar (c : Char) : List Char :=
  match c with
  | '"' => ['\\', '"']
  | '\\' => ['\\', '\\']
  | '\x08' => ['\\', 'b']
  | '\t' => ['\\', 't']
  | '\n' => ['\\', 'n']
  | '\x0c' => ['\\', 'f']
  | '\r' => ['\\', 'r']
  | c => if c.toNat < 0x20 then '\\' :: 'u' :: hexDigits 4 c.toNat else [c]

/-- A string in quotes. -/
def quote (s : String) : String :=
  String.ofList ('"' :: s.toList.flatMap escapeChar ++ ['"'])

/-- The start of a line at a depth. -/
def newLine (depth : Nat) : String :=
  String.ofList ('\n' :: List.replicate (2 * depth) ' ')

/-- Parts in brackets, each on a line of its own. -/
def bracketed (opening closing : String) (depth : Nat) (parts : List String) : String :=
  if parts.isEmpty then opening ++ closing
  else
    opening ++ newLine (depth + 1) ++ String.intercalate ("," ++ newLine (depth + 1)) parts
      ++ newLine depth ++ closing

mutual

/-- A document whose lines are indented by two blanks for each depth. -/
def pretty (depth : Nat) : Json → String
  | .text s => quote s
  | .number n => toString n
  | .list items => bracketed "[" "]" depth (prettyItems (depth + 1) items)
  | .object fields => bracketed "\x7b" "\x7d" depth (prettyFields (depth + 1) fields)

/-- The items of a list. -/
def prettyItems (depth : Nat) : List Json → List String
  | [] => []
  | item :: rest => pretty depth item :: prettyItems depth rest

/-- The fields of an object. -/
def prettyFields (depth : Nat) : List (String × Json) → List String
  | [] => []
  | (name, value) :: rest => (quote name ++ ": " ++ pretty depth value) :: prettyFields depth rest

end

end Json

/-- A violation as a JSON document; a missing suggestion is left out. -/
def Violation.toJson (v : Violation) : Json :=
  let suggestion := match v.suggestion with
    | some name => [("suggestion", Json.text name)]
    | none => []
  .object ([("location", .object [("file", .text v.file), ("line", .number v.place.line),
      ("column", .number v.place.column)]),
    ("identifier", .text v.identifier), ("context", .text v.context.key),
    ("expected", .text v.expected), ("message", .text v.message)] ++ suggestion)

/-- A failure as a JSON document. -/
def Failure.toJson (f : Failure) : Json :=
  .object [("path", .text f.path), ("reason", .text f.reason)]

namespace ScanReport

/-- A report as a JSON document. -/
def toJson (r : ScanReport) : Json :=
  .object [("violations", .list (r.violations.map (·.toJson))),
    ("failures", .list (r.failures.map (·.toJson))), ("files_checked", .number r.filesChecked)]

/-- The escape sequence that begins the color of the summary: red for violations, green if there is
nothing to tell, yellow else. -/
def colorCode (r : ScanReport) : String :=
  if r.hasViolations then "\x1b[31m" else if r.failures.isEmpty then "\x1b[32m" else "\x1b[33m"

/-- The report as text, with its summary last. -/
def renderText (r : ScanReport) (color : Bool) : String :=
  let violations := r.violations.map fun v => v.text ++ "\n\n"
  let failures := r.failures.map fun f => "warning: " ++ f.text ++ "\n"
  let summary := if color then r.colorCode ++ r.summary ++ "\x1b[0m" else r.summary
  String.join violations ++ String.join failures ++ summary ++ "\n"

/-- The report with a line for each violation and failure. -/
def renderCompact (r : ScanReport) : String :=
  String.join (r.violations.map fun v => v.compact ++ "\n")
    ++ String.join (r.failures.map fun f => f.text ++ "\n")

/-- The report as the text of a JSON document. -/
def renderJson (r : ScanReport) : String := r.toJson.pretty 0 ++ "\n"

/-- The report in a format; only the text format has color. -/
def render (r : ScanReport) (format : OutputFormat) (color : Bool) : String :=
  match format with
  | .text => r.renderText color
  | .compact => r.renderCompact
  | .json => r.renderJson

end ScanReport

end NameLint.Report
