import NameLint.Ignore.Glob

/-!
# The text of globs

A glob is read from its text character by character. A bracket that is never closed stands for itself; all
else that is malformed is refused.
-/

namespace NameLint.Ignore

/-- Why a text is no glob. -/
inductive GlobError where
  /-- A backslash with nothing after it. -/
  | danglingEscape
  /-- A range of a set that ends before it starts. -/
  | emptyRange (first last : Char)
  /-- A closing brace without an opening one. -/
  | unopenedChoice
  /-- An opening brace without a closing one. -/
  | unclosedChoice
  deriving DecidableEq, Repr

/-- The text of an error. -/
def GlobError.message : GlobError → String
  | .danglingEscape => "dangling '\\'"
  | .emptyRange first last => "invalid range; '" ++ first.toString ++ "' > '" ++ last.toString ++ "'"
  | .unopenedChoice => "unopened alternate group; missing '\x7b' (maybe escape '\x7d' with '[\x7d]'?)"
  | .unclosedChoice => "unclosed alternate group; missing '\x7d' (maybe escape '\x7b' with '[\x7b]'?)"

/-! ## Sets in brackets -/

/-- The rest of a set: its ranges, the newest first, and what follows its closing bracket; nothing if it is
never closed. A closing bracket that comes `first` belongs to the set, and a dash does too unless it stands
between two characters. -/
def readSet (first inRange : Bool) (ranges : List (Char × Char)) :
    List Char → Except GlobError (Option (List (Char × Char) × List Char))
  | [] => .ok none
  | c :: rest =>
    if c = ']' && !first then
      .ok (some (if inRange then ('-', '-') :: ranges else ranges, rest))
    else if c = '-' && !first && !inRange then readSet false true ranges rest
    else if inRange then
      match ranges with
      | (a, _) :: older =>
        if c < a then .error (.emptyRange a c) else readSet false false ((a, c) :: older) rest
      | [] => readSet false false [(c, c)] rest
    else readSet false false ((c, c) :: ranges) rest

theorem readSet_length_lt {first inRange : Bool} {ranges found : List (Char × Char)}
    {cs rest : List Char} (h : readSet first inRange ranges cs = .ok (some (found, rest))) :
    rest.length < cs.length := by
  fun_induction readSet first inRange ranges cs with
  | case1 => cases h
  | case2 => simp only [Except.ok.injEq, Option.some.injEq, Prod.mk.injEq] at h; simp [h.2]
  | case4 => cases h
  | case3 | case5 | case6 | case7 => rename_i ih; exact Nat.lt_succ_of_lt (ih h)

/-- A set after its opening bracket: whether it is negated, its ranges, and what follows it. -/
def readBracket (cs : List Char) :
    Except GlobError (Option (Bool × List (Char × Char) × List Char)) :=
  let negated := cs.head? = some '!' || cs.head? = some '^'
  match readSet true false [] (if negated then cs.tail else cs) with
  | .error e => .error e
  | .ok none => .ok none
  | .ok (some (ranges, rest)) => .ok (some (negated, ranges.reverse, rest))

theorem readBracket_length_lt {cs rest : List Char} {negated : Bool} {ranges : List (Char × Char)}
    (h : readBracket cs = .ok (some (negated, ranges, rest))) : rest.length < cs.length := by
  simp only [readBracket] at h
  split at h
  · cases h
  · cases h
  · next heq =>
    have hlt := readSet_length_lt heq
    simp only [Except.ok.injEq, Option.some.injEq, Prod.mk.injEq] at h
    rw [h.2.2] at hlt
    split at hlt
    · exact Nat.lt_of_lt_of_le hlt (by simp)
    · exact hlt

/-! ## Whole globs -/

/-- What has been read: the pieces of the branch at hand, the newest first, and the choices that are open,
the innermost first, each with its finished branches and the pieces before it. -/
structure Reading where
  pieces : List Piece
  choices : List (List (List Piece) × List Piece)

namespace Reading

/-- Adds a piece to the branch at hand. -/
def add (r : Reading) (piece : Piece) : Reading := { r with pieces := piece :: r.pieces }

/-- Opens a choice. -/
def openChoice (r : Reading) : Reading := ⟨[], ([], r.pieces) :: r.choices⟩

/-- What a comma means: the next branch inside of a choice, and itself outside. -/
def comma (r : Reading) : Reading :=
  match r.choices with
  | [] => r.add (.literal ',')
  | (finished, before) :: outer => ⟨[], (r.pieces :: finished, before) :: outer⟩

/-- The expression of a branch that is not empty. -/
def branch? (pieces : List Piece) : Option Regex.Expr :=
  if pieces.all (·.isBlank) then none else some (.seqAll (pieces.reverse.map Piece.expr))

/-- Closes the innermost choice. -/
def closeChoice? (r : Reading) : Option Reading :=
  match r.choices with
  | [] => none
  | (finished, before) :: outer =>
    some ⟨.choice ((r.pieces :: finished).reverse.filterMap branch?) :: before, outer⟩

/-- Two stars that do not stand for directories. -/
def addStars (r : Reading) : Reading := (r.add .anyBytes).add .anyBytes

/-- Puts directories in place of the slash before them; directories after directories change nothing. -/
def addDirectories (r : Reading) (piece : Piece) : Reading :=
  match r.pieces with
  | .leadingDirectories :: _ | .anythingBelow :: _ => r
  | _ :: older => { r with pieces := piece :: older }
  | [] => r.add piece

/-- Adds two stars that follow the character `before` and stand before the text `rest`. They stand for
directories if slashes or the ends of the glob or of a branch surround them; then the slash after
them belongs to them. -/
def addDoubleStar (r : Reading) (before : Option Char) (rest : List Char) : Reading × Bool :=
  let inChoice := !r.choices.isEmpty
  let slashAfter := rest.head? = some '/'
  if r.pieces.isEmpty then
    if rest.isEmpty || slashAfter then (r.add .leadingDirectories, slashAfter) else (r.addStars, false)
  else if before ≠ some '/' && !(inChoice && (before = some ',' || before = some '{')) then
    (r.addStars, false)
  else if slashAfter then (r.addDirectories .innerDirectories, true)
  else if rest.isEmpty || (inChoice && (rest.head? = some ',' || rest.head? = some '}')) then
    (r.addDirectories .anythingBelow, false)
  else (r.addStars, false)

end Reading

/-- Reads the rest of a glob after the character `before`. When it is known that no bracket is closed any
more, `bracketsClose` is false. -/
def readGlob (bracketsClose : Bool) (before : Option Char) (r : Reading) (cs : List Char) :
    Except GlobError Glob :=
  match cs with
  | [] => if r.choices.isEmpty then .ok ⟨r.pieces.reverse⟩ else .error .unclosedChoice
  | '*' :: '*' :: rest =>
    match r.addDoubleStar before rest with
    | (r, true) => readGlob bracketsClose (some '/') r rest.tail
    | (r, false) => readGlob bracketsClose (some '*') r rest
  | '\\' :: [] => .error .danglingEscape
  | '\\' :: c :: rest => readGlob bracketsClose (some c) (r.add (.literal c)) rest
  | c :: rest =>
    if c = '?' then readGlob bracketsClose (some c) (r.add .anyByte) rest
    else if c = '*' then readGlob bracketsClose (some c) (r.add .anyBytes) rest
    else if c = '{' then readGlob bracketsClose (some c) r.openChoice rest
    else if c = ',' then readGlob bracketsClose (some c) r.comma rest
    else if c = '}' then
      match r.closeChoice? with
      | none => .error .unopenedChoice
      | some r => readGlob bracketsClose (some c) r rest
    else if c = '[' && bracketsClose then
      match _hb : readBracket rest with
      | .error e => .error e
      | .ok none => readGlob false (some c) (r.add (.literal c)) rest
      | .ok (some (negated, ranges, after)) =>
        readGlob bracketsClose (some ']') (r.add (.oneOf negated ranges)) after
    else readGlob bracketsClose (some c) (r.add (.literal c)) rest
termination_by cs.length
decreasing_by
  any_goals simp only [List.length_cons, List.length_tail]; omega
  have := readBracket_length_lt _hb
  simp only [List.length_cons]
  omega

/-- The glob with a text. -/
def Glob.ofText (text : List Char) : Except GlobError Glob := readGlob true none ⟨[], []⟩ text

end NameLint.Ignore
