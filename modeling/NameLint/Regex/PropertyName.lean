import NameLint.Regex.CharSet

/-!
# Names of character properties

The properties that an expression can ask for by name, and how a name is read: letter case, blanks,
hyphens, underscores and a leading "is" do not matter.
-/

namespace NameLint.Regex

open NameLint.Unicode

/-- A property name without its blanks, hyphens, underscores, characters beyond ASCII and leading
"is", in lower case. The name "isc" keeps its beginning, which tells it from "c". -/
def normalizeName (name : List Char) : String :=
  let squeeze (cs : List Char) : List Char :=
    (cs.filter fun c => isAscii c && c != ' ' && c != '_' && c != '-').map Char.toLower
  match name with
  | c :: d :: rest =>
    if c.toLower = 'i' ∧ d.toLower = 's' then
      let stem := squeeze rest
      if stem = ['c'] then "isc" else String.ofList stem
    else String.ofList (squeeze name)
  | _ => String.ofList (squeeze name)

namespace Property

/-- The binary properties and their names. -/
def binaryNames : List (Property × List String) :=
  [(.alphabetic, ["alphabetic", "alpha"]), (.lowercase, ["lowercase", "lower"]),
   (.uppercase, ["uppercase", "upper"]), (.cased, ["cased"]),
   (.caseIgnorable, ["caseignorable", "ci"]), (.blank, ["whitespace", "wspace", "space"]),
   (.asciiHexDigit, ["asciihexdigit", "ahex"]), (.hexDigit, ["hexdigit", "hex"]),
   (.joinControl, ["joincontrol", "joinc"]), (.ideographic, ["ideographic", "ideo"]),
   (.idStart, ["idstart", "ids"]), (.idContinue, ["idcontinue", "idc"]),
   (.xidStart, ["xidstart", "xids"]), (.xidContinue, ["xidcontinue", "xidc"])]

/-- The properties that are values of the general category, with their names. -/
def categoryNames : List (Property × List String) :=
  [(.anything, ["any"]), (.assigned, ["assigned"]), (.ascii, ["ascii"])]
    ++ Category.names.map (fun (c, names) => (.categories [c], names))
    ++ Category.groups.map (fun (cs, names) => (.categories cs, names))

/-- The property listed under a normalized name. -/
def find? (listed : List (Property × List String)) (name : String) : Option Property :=
  (listed.find? fun entry => entry.2.any fun n => normalizeName n.toList == name).map (·.1)

/-- The general category, or group of them, with a normalized name. -/
def ofCategoryName? (name : String) : Option Property :=
  find? categoryNames name

/-- The first of the names among which a normalized name is found. -/
def firstName? (lists : List (List String)) (name : String) : Option String :=
  (lists.find? fun names => names.any fun n => normalizeName n.toList == name).bind List.head?

/-- The listed property with a normalized name. -/
def ofListedName? (name : String) : Option Property :=
  ((firstName? listedPropertyNames name).bind listedProperty?).map .listed

/-- The script with a normalized name. -/
def scriptOfName? (name : String) : Option Script :=
  (firstName? scriptNames name).map Script.mk

/-- The property of belonging to the script with a normalized name. -/
def ofScriptName? (name : String) : Option Property :=
  (scriptOfName? name).map .script

/-- The property of belonging to the extension of the script with a normalized name. -/
def ofExtensionName? (name : String) : Option Property :=
  (scriptOfName? name).map fun s => .scriptExtension s (extensionExceptions s)

/-- The property that a name alone asks for: a binary property before a general category before a
script. -/
def ofName? (name : List Char) : Option Property :=
  let name := normalizeName name
  find? binaryNames name <|> ofListedName? name <|> ofCategoryName? name <|> ofScriptName? name

/-- The property that a name with a value asks for. -/
def ofNameAndValue? (name value : List Char) : Option Property :=
  let value := normalizeName value
  match normalizeName name with
  | "gc" | "generalcategory" => ofCategoryName? value
  | "sc" | "script" => ofScriptName? value
  | "scx" | "scriptextensions" => ofExtensionName? value
  | _ => none

end Property

end NameLint.Regex
