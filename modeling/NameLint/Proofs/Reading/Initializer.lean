import NameLint.Proofs.Reading.Braces
import NameLint.Proofs.Reading.Cut
import NameLint.Proofs.Statement.Variables

/-!
# Values in braces

A variable is made known by the semicolon behind it, with or without a value. A value in braces behind an
equals sign never changes that. One directly behind the declarator does not either where the head lets the
brace open a value.
-/

namespace NameLint.Declaration

open NameLint.Source

/-- A pair of braces around balanced tokens. -/
structure Braces where
  opening : Position
  content : List Token
  closing : Position
  balanced : Balanced content

namespace Braces

def tokens (braces : Braces) : List Token :=
  ⟨.mark, "\x7b", braces.opening⟩ :: braces.content ++ [⟨.mark, "\x7d", braces.closing⟩]

/-- What stands for the braces in a statement. -/
def placeholder (braces : Braces) (kind : TokenKind) : Token := ⟨kind, "\x7d", braces.closing⟩

end Braces

def equalsSign (place : Position) : Token := ⟨.mark, "=", place⟩

def semicolon (place : Position) : Token := ⟨.mark, ";", place⟩

/-- `Joined scopes ts head`: read where a statement begins, the tokens `ts` make up `head`, in which a
placeholder stands for each closed body of a type. -/
inductive Joined (scopes : Scopes) : List Token → List Token → Prop
  | nil : Joined scopes [] []
  | token {ts head : List Token} {t : Token} (before : Joined scopes ts head)
      (quiet : t.isQuiet = true)
      (noLabel : t.isMark ":" = true → (Reading.mk scopes head).endLabel? = none) :
      Joined scopes (ts ++ [t]) (head ++ [t])
  | body {ts head : List Token} (before : Joined scopes ts head) (type : TypeHead head)
      (braces : Braces) : Joined scopes (ts ++ braces.tokens) (head ++ [braces.placeholder .body])

variable {limit : Nat} {scopes : Scopes} {ts us head : List Token}

namespace Reading

variable {r s : Reading} {found : List Occurrence}

theorem run_braces_tokens (braces : Braces) (room : r.HasRoom limit braces.content) :
    ∃ found, r.run limit braces.tokens =
        .ok (⟨r.scopes, r.statementAfterBraces (braces.placeholder .mark)⟩, r.openedName?.toList ++ found) ∧
      (r.hidesBody = true → found = []) :=
  run_pair rfl rfl braces.balanced room

theorem statementAfterBraces_of_opensType (visible : r.scopes.isHidden = false)
    (opens : (classifyOpen r.statement r.scopes.site).opensType = true) (braces : Braces) :
    r.statementAfterBraces (braces.placeholder .mark) = r.statement ++ [braces.placeholder .body] := by
  rw [statementAfterBraces, if_neg (by simp [visible])]
  cases hopening : classifyOpen r.statement r.scopes.site with
  | record kind name => rfl
  | enumeration name => rfl
  | namespaceBody | function name | initializer | block =>
      rw [hopening] at opens
      cases opens

/-- Braces that name nothing and hide what is in them count only for the statement behind them. -/
theorem extractFrom_braces (braces : Braces) (room : r.HasRoom limit braces.content)
    (hides : r.hidesBody = true) (unnamed : r.openedName? = none) :
    extractFrom limit r (braces.tokens ++ us) =
      extractFrom limit ⟨r.scopes, r.statementAfterBraces (braces.placeholder .mark)⟩ us := by
  obtain ⟨found, hrun, hnone⟩ := run_braces_tokens braces room
  rw [extractFrom_append hrun, hnone hides, unnamed]
  rfl

theorem extractFrom_value (visible : r.scopes.isHidden = false)
    (opens : classifyOpen r.statement r.scopes.site = .initializer) (value : Braces)
    (room : r.HasRoom limit value.content) :
    extractFrom limit r (value.tokens ++ us) =
      extractFrom limit ⟨r.scopes, r.statement ++ [value.placeholder .group]⟩ us := by
  have hopening : r.opening = .initializer := by simp [opening, visible, opens]
  rw [extractFrom_braces value room (by simp [hidesBody, hopening]) (by simp [openedName?, hopening])]
  simp [statementAfterBraces, visible, opens, Braces.placeholder]

theorem extractFrom_block (visible : r.scopes.isHidden = false)
    (opens : classifyOpen r.statement r.scopes.site = .block) (block : Braces)
    (room : r.HasRoom limit block.content) :
    extractFrom limit r (block.tokens ++ us) = extractFrom limit ⟨r.scopes, []⟩ us := by
  have hopening : r.opening = .block := by simp [opening, visible, opens]
  rw [extractFrom_braces block room (by simp [hidesBody, hopening]) (by simp [openedName?, hopening])]
  simp [statementAfterBraces, visible, opens]

/-- A semicolon makes the same names known where the statements declare the same. -/
theorem extractFrom_semicolon (visible : scopes.isHidden = false) {place place' : Position}
    (h : classifyStatement ts scopes.site = classifyStatement head scopes.site) :
    extractFrom limit ⟨scopes, ts⟩ (semicolon place :: us) =
      extractFrom limit ⟨scopes, head⟩ (semicolon place' :: us) := by
  have hend : ∀ (statement : List Token) (place : Position),
      Step limit ⟨scopes, statement⟩ (semicolon place) _ _ := fun _ _ => .ends rfl visible
  rw [(hend ts place).extractFrom_cons, (hend head place').extractFrom_cons]
  simp [endStatement, h]

end Reading

open Reading

/-! ## Heads -/

namespace Joined

theorem isQuiet (h : Joined scopes ts head) (hkeyword : head.any isTypeKeyword = false) :
    ts.all (·.isQuiet) = true := by
  induction h with
  | nil => rfl
  | token before quiet noLabel ih =>
      simp only [List.any_append, Bool.or_eq_false_iff] at hkeyword
      simp [ih hkeyword.1, quiet]
  | body before type braces ih =>
      simp [type.keyword] at hkeyword

/-- Reading comes through a head to the statement that it makes up, if nothing in it is refused. -/
theorem run_eq (h : Joined scopes ts head) (visible : scopes.isHidden = false) (tokens : HeadTokens head)
    {s : Reading} {found : List Occurrence} (hrun : run limit ⟨scopes, []⟩ ts = .ok (s, found)) :
    s = ⟨scopes, head⟩ := by
  induction h generalizing s found with
  | nil =>
      cases hrun
      rfl
  | token before quiet noLabel ih =>
      obtain ⟨m, first, later, hbefore, hlast, -⟩ := run_append_eq_ok hrun
      obtain rfl := ih tokens.of_append hbefore
      simp only [Token.isQuiet, Bool.and_eq_true, Bool.not_eq_true'] at quiet
      have hstep : Step limit ⟨scopes, _⟩ _ _ [] :=
        .continues quiet.1.1 quiet.1.2 visible quiet.2 noLabel
      cases hlast.symm.trans hstep.run_singleton
      rfl
  | body before type braces ih =>
      obtain ⟨m, first, later, hbefore, hbraces, -⟩ := run_append_eq_ok hrun
      obtain rfl := ih tokens.of_append hbefore
      -- Whatever the body declares, behind it the statement has its placeholder.
      have room : HasRoom limit ⟨scopes, _⟩ braces.content := .of_run rfl hbraces
      obtain ⟨inner, hafter, -⟩ := run_braces_tokens braces room
      rw [statementAfterBraces_of_opensType visible
        (type.classifyOpen_opensType tokens.of_append)] at hafter
      cases hbraces.symm.trans hafter
      rfl

theorem extractFrom_congr (h : Joined scopes ts head) (visible : scopes.isHidden = false)
    (tokens : HeadTokens head) {us vs : List Token}
    (hsame : extractFrom limit ⟨scopes, head⟩ us = extractFrom limit ⟨scopes, head⟩ vs) :
    extractFrom limit ⟨scopes, []⟩ (ts ++ us) = extractFrom limit ⟨scopes, []⟩ (ts ++ vs) := by
  rcases run_cases limit ⟨scopes, []⟩ ts with
    ⟨s, found, hrun⟩ | ⟨before, t, rest, s, found, e, rfl, hrun, he⟩
  · obtain rfl := h.run_eq visible tokens hrun
    rw [extractFrom_append hrun, extractFrom_append hrun, hsame]
  · -- A brace inside of the head is refused, so that nothing behind it is read.
    simp only [List.append_assoc, List.cons_append, extractFrom_of_error hrun he]

end Joined

namespace VariableHead

variable {place equals : Position}

theorem extractFrom_assigned (h : VariableHead head) (visible : scopes.isHidden = false) (value : Braces)
    (room : HasRoom limit ⟨scopes, []⟩ value.content) (place' : Position) :
    extractFrom limit ⟨scopes, head⟩ (equalsSign equals :: value.tokens ++ semicolon place :: us) =
      extractFrom limit ⟨scopes, head⟩ (semicolon place' :: us) := by
  have hstep : Step limit ⟨scopes, head⟩ (equalsSign equals) ⟨scopes, head ++ [equalsSign equals]⟩ [] :=
    .continues rfl rfl visible rfl fun colon => by cases colon
  rw [List.cons_append, hstep.extractFrom_cons, after_nil,
    extractFrom_value (r := ⟨scopes, head ++ [equalsSign equals]⟩) visible (h.classifyOpen_concat rfl)
      value room, List.append_assoc]
  exact extractFrom_semicolon visible (h.classifyStatement_append (by simp)
    (by simp [isValueToken, Braces.placeholder, equalsSign, Token.isMark]))

theorem extractFrom_braced (h : VariableHead head) (opens : OpensValue head)
    (visible : scopes.isHidden = false) (value : Braces)
    (room : HasRoom limit ⟨scopes, []⟩ value.content) (place' : Position) :
    extractFrom limit ⟨scopes, head⟩ (value.tokens ++ semicolon place :: us) =
      extractFrom limit ⟨scopes, head⟩ (semicolon place' :: us) := by
  rw [extractFrom_value (r := ⟨scopes, head⟩) visible (h.classifyOpen_of_opensValue opens) value room]
  exact extractFrom_semicolon visible (h.classifyStatement_append (by simp)
    (by simp [isValueToken, Braces.placeholder]))

/-- Without the keyword of a type, nothing is found where the head does not end in a name. -/
theorem extractFrom_unnamed (h : VariableHead head) (hkeyword : head.any isTypeKeyword = false)
    (hlast : head.getLast?.any (·.isName) = false) (visible : scopes.isHidden = false) (value : Braces)
    (room : HasRoom limit ⟨scopes, []⟩ value.content) :
    extractFrom limit ⟨scopes, head⟩ (value.tokens ++ semicolon place :: us) =
      extractFrom limit ⟨scopes, []⟩ us := by
  have hstep : Step limit ⟨scopes, []⟩ (semicolon place) _ _ := .ends rfl visible
  rw [extractFrom_block (r := ⟨scopes, head⟩) visible (h.classifyOpen_of_last hkeyword hlast) value room,
    hstep.extractFrom_cons]
  simp [endStatement, classifyStatement_nil]

end VariableHead

/-- A value in braces directly behind the head of a variable is reported like one behind an equals sign, and
like none, where the head lets the brace open a value: if there is a type's keyword, two names have to count
behind it, and else the head has to end in a name. Without such a keyword, a variable whose head ends in
anything else is not reported at all. -/
theorem extractFrom_initialized {ts head rest : List Token} (equals place place' place'' : Position)
    (visible : scopes.isHidden = false) (joined : Joined scopes ts head) (declares : VariableHead head)
    (value value' : Braces) (room : HasRoom limit ⟨scopes, []⟩ value.content)
    (room' : HasRoom limit ⟨scopes, []⟩ value'.content) :
    (OpensValue head →
      extractFrom limit ⟨scopes, []⟩ (ts ++ value.tokens ++ semicolon place :: rest) =
        extractFrom limit ⟨scopes, []⟩
          (ts ++ equalsSign equals :: value'.tokens ++ semicolon place' :: rest)) ∧
    extractFrom limit ⟨scopes, []⟩ (ts ++ equalsSign equals :: value'.tokens ++ semicolon place' :: rest) =
      extractFrom limit ⟨scopes, []⟩ (ts ++ semicolon place'' :: rest) ∧
    (head.any isTypeKeyword = false → head.getLast?.any (·.isName) = false →
      extractFrom limit ⟨scopes, []⟩ (ts ++ value.tokens ++ semicolon place :: rest) =
        extractFrom limit ⟨scopes, []⟩ rest) := by
  have htokens := declares.toHeadTokens
  simp only [List.append_assoc]
  refine ⟨fun opens => ?_, ?_, fun hkeyword hlast => ?_⟩
  · refine joined.extractFrom_congr visible htokens ?_
    rw [declares.extractFrom_braced opens visible value room place,
      declares.extractFrom_assigned visible value' room' place]
  · exact joined.extractFrom_congr visible htokens (declares.extractFrom_assigned visible value' room' _)
  · obtain ⟨s, hquiet⟩ := run_of_isQuiet limit ⟨scopes, []⟩ (joined.isQuiet hkeyword)
    obtain rfl := joined.run_eq visible htokens hquiet
    rw [extractFrom_append hquiet, after_nil, declares.extractFrom_unnamed hkeyword hlast visible value room]

/-- The braces in `struct Point { int a; } x`. -/
def pointBody : Braces :=
  ⟨⟨1, 14⟩, [⟨.word, "int", ⟨1, 16⟩⟩, ⟨.word, "a", ⟨1, 20⟩⟩, ⟨.mark, ";", ⟨1, 21⟩⟩], ⟨1, 23⟩, by decide⟩

/-- `struct Point { int a; } x`, with `braces` for those of the body. -/
def pointHead (braces : List Token) : List Token :=
  [] ++ [⟨.word, "struct", ⟨1, 1⟩⟩] ++ [⟨.word, "Point", ⟨1, 8⟩⟩] ++ braces ++ [⟨.word, "x", ⟨1, 25⟩⟩]

theorem joined_pointHead :
    Joined [] (pointHead pointBody.tokens) (pointHead [pointBody.placeholder .body]) :=
  .token (.body (.token (.token .nil rfl (by decide)) rfl (by decide))
    ⟨by decide, by decide, by decide⟩ pointBody) rfl (by decide)

theorem variableHead_pointHead : VariableHead (pointHead [pointBody.placeholder .body]) :=
  ⟨⟨by decide, by decide, by decide, by decide⟩, by decide, by decide⟩

/-- The braces in `{ 1 }`, from a column on. -/
def oneInBraces (column : Nat) : Braces where
  opening := ⟨1, column⟩
  content := [⟨.literal, "1", ⟨1, column + 2⟩⟩]
  closing := ⟨1, column + 4⟩
  balanced :=
    ⟨fun j _ => by cases j <;> simp [braceDepth, Token.opensBrace, Token.closesBrace, Token.isMark], rfl⟩

/-- Behind the closed body of a named record. -/
theorem extract_initialized_point :
    extract "struct Point \x7b int a; \x7d x \x7b 1 \x7d;" =
        extract "struct Point \x7b int a; \x7d x = \x7b 1 \x7d;" ∧
      extract "struct Point \x7b int a; \x7d x = \x7b 1 \x7d;" =
        extract "struct Point \x7b int a; \x7d x;" := by
  have hbraced : tokens "struct Point \x7b int a; \x7d x \x7b 1 \x7d;" =
      pointHead pointBody.tokens ++ (oneInBraces 27).tokens ++ [semicolon ⟨1, 32⟩] := by
    decide +kernel
  have hassigned : tokens "struct Point \x7b int a; \x7d x = \x7b 1 \x7d;" =
      pointHead pointBody.tokens ++ equalsSign ⟨1, 27⟩ :: (oneInBraces 29).tokens ++
        [semicolon ⟨1, 34⟩] := by
    decide +kernel
  have hbare : tokens "struct Point \x7b int a; \x7d x;" =
      pointHead pointBody.tokens ++ [semicolon ⟨1, 26⟩] := by
    decide +kernel
  rw [extract, extract, extract, hbraced, hassigned, hbare]
  have room : HasRoom defaultDepthLimit ⟨[], []⟩ (oneInBraces 27).content := by decide
  have room' : HasRoom defaultDepthLimit ⟨[], []⟩ (oneInBraces 29).content := by decide
  obtain ⟨hvalue, hsame, -⟩ := extractFrom_initialized ⟨1, 27⟩ ⟨1, 32⟩ ⟨1, 34⟩ ⟨1, 26⟩ rfl
    joined_pointHead variableHead_pointHead (oneInBraces 27) (oneInBraces 29) room room'
  exact ⟨hvalue (.inl (by decide)), hsame⟩

/-- A bound at the end of the head, a type that is spelled like an export macro, and a comparison in the width
of a bit-field keep the brace from being read as behind an equals sign. -/
theorem extract_braced_ne_assigned :
    ((extract "int x[2] \x7b 1, 2 \x7d;").found = [] ∧
      (extract "int x[2] = \x7b 1, 2 \x7d;").found = [⟨.global .variable, "x", ⟨1, 5⟩⟩]) ∧
    ((extract "struct MY_TYPE x \x7b 1 \x7d;").found = [⟨.structType, "x", ⟨1, 16⟩⟩] ∧
      (extract "struct MY_TYPE x = \x7b 1 \x7d;").found = [⟨.global .variable, "x", ⟨1, 16⟩⟩]) ∧
    ((extract "union \x7b int x : A < B \x7b 1 \x7d; \x7d;").found =
        [⟨.member .isPublic .variable, "x", ⟨1, 13⟩⟩] ∧
      (extract "union \x7b int x : A < B = \x7b 1 \x7d; \x7d;").found = []) := by
  decide +kernel

end NameLint.Declaration
