import NameLint.FileTree.Basic
import NameLint.Ignore.GlobText
import NameLint.Unicode.Property

/-!
# Ignore rules

A line of an ignore file holds a rule, which says for some paths whether they are left out or kept. Of
several rules the last that fits a path decides; when none fits, the directories above the path are asked,
the nearest first.
-/

namespace NameLint.Ignore

open NameLint.FileTree NameLint.Unicode

/-- A rule: the paths it fits, whether it keeps them or leaves them out, and whether they have to be
directories. -/
structure Rule where
  glob : Glob
  keeps : Bool
  directoriesOnly : Bool

/-! ## Lines -/

/-- A line without the blanks at its end, unless the last of them is escaped. -/
def trimLine (line : List Char) : List Char :=
  if ['\\', ' '].isSuffixOf line then line else (line.reverse.dropWhile isBlank).reverse

/-- The glob that the text of a rule means: one without a slash fits in every directory, and one that ends
in `/**` does not fit the directory itself. -/
def globText (anchored : Bool) (text : List Char) : List Char :=
  let text :=
    if anchored || text.contains '/' || text = ['*', '*'] then text else ['*', '*', '/'] ++ text
  if ['/', '*', '*'].isSuffixOf text then text ++ ['/', '*'] else text

/-- The rule that the text after any `!` and any slash at the start gives. A slash at the end asks for
directories, also if it is escaped. -/
def ruleOf (keeps anchored : Bool) (text : List Char) : Except GlobError Rule :=
  let directoriesOnly := text.getLast? = some '/'
  let text := if directoriesOnly then text.dropLast else text
  let text := if directoriesOnly && text.getLast? = some '\\' then text.dropLast else text
  (Glob.ofText (globText anchored text)).map (⟨·, keeps, directoriesOnly⟩)

/-- The rule of a line; blank lines and comments have none. -/
def Rule.ofLine (line : List Char) : Except GlobError (Option Rule) :=
  if line.head? = some '#' then .ok none
  else
    match trimLine line with
    | [] => .ok none
    | '\\' :: '!' :: rest => (ruleOf false false ('!' :: rest)).map some
    | '\\' :: '#' :: rest => (ruleOf false false ('#' :: rest)).map some
    | '!' :: '/' :: rest => (ruleOf true true rest).map some
    | '!' :: rest => (ruleOf true false rest).map some
    | '/' :: rest => (ruleOf false true rest).map some
    | text => (ruleOf false false text).map some

/-- The lines of a text, the one at hand given by what has been read of it, the newest first. A carriage
return before the end of a line does not belong to it. -/
def linesFrom (line : List Char) : List Char → List (List Char)
  | [] => if line.isEmpty then [] else [line.reverse]
  | c :: rest =>
    if c = '\n' then
      (if line.head? = some '\r' then line.tail else line).reverse :: linesFrom [] rest
    else linesFrom (c :: line) rest

/-- The rules of several lines, numbered from `number` on; or the number of the first line that is
malformed, with the reason. -/
def rulesFrom (number : Nat) : List (List Char) → Except (Nat × GlobError) (List Rule)
  | [] => .ok []
  | line :: rest =>
    match Rule.ofLine line with
    | .error e => .error (number, e)
    | .ok none => rulesFrom (number + 1) rest
    | .ok (some rule) => (rulesFrom (number + 1) rest).map (rule :: ·)

/-- The rules of an ignore file. -/
def readRules (text : List Char) : Except (Nat × GlobError) (List Rule) :=
  rulesFrom 1 (linesFrom [] text)

/-! ## Decisions -/

/-- Names as a path. -/
def relativePath (names : List String) : List Char :=
  ['/'].intercalate (names.map String.toList)

/-- Whether a rule fits what has these names below the directory of the rules. -/
def Rule.fits (rule : Rule) (names : List String) (isDirectory : Bool) : Bool :=
  (isDirectory || !rule.directoriesOnly) && rule.glob.fits (relativePath names)

/-- What the rules that fit the names themselves decide: whether they are kept. -/
def decision? (rules : List Rule) (names : List String) (isDirectory : Bool) : Option Bool :=
  (rules.reverse.find? (·.fits names isDirectory)).map (·.keeps)

/-- Whether rules leave out what has these names, by themselves or by a directory above them. The
directory of the rules is the last that is asked, under the empty path. -/
def leavesOut (rules : List Rule) (names : List String) (isDirectory : Bool) : Bool :=
  match decision? rules names isDirectory with
  | some keeps => !keeps
  | none => if names.isEmpty then false else leavesOut rules names.dropLast true
termination_by names.length
decreasing_by
  have := List.length_pos_iff.mpr (List.isEmpty_eq_false_iff.mp (Bool.eq_false_iff.mpr ‹_›))
  simp only [List.length_dropLast]
  omega

end NameLint.Ignore
