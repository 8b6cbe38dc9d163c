import Mathlib.Data.List.TakeWhile
import NameLint.Proofs.Reading.Step
import NameLint.Proofs.Statement.Names
import NameLint.Source.Lexer

/-!
# The heads of types

A head that opens the body of a type is asked a second question when a semicolon follows it: which variables
it declares. The opening counts the names behind the keyword, without qualifiers, export macros and `final`;
the declaration asks for anything that names a type in front of the last name. The two answers fit together
except where the second sees a type in what the first leaves out.
-/

namespace NameLint.Declaration

open NameLint.Source

variable {ts before linkage : List Token} {ms segment : List Marked} {site : Site} {name : Token}

/-! ## The first declarator -/

/-- The tokens of the first declarator: up to the first mark at top level that ends one. -/
def firstDeclarator (ts : List Token) : List Token :=
  tokensOf ((markTop {} ts).takeWhile fun m =>
    !(m.isTop && endsDeclarator m.token) && !m.isTopMark ",")

/-- The first declarator of the tokens ends in a name of its own, with something in front of it that names a
type. -/
structure EndsTyped (ts before : List Token) (name : Token) : Prop where
  first : firstDeclarator ts = before ++ [name]
  isName : name.isName = true
  unqualified : isQualified before = false
  typed : hasType before = true

theorem splitCommas_head (ms : List Marked) :
    ∃ others, splitCommas ms = ms.takeWhile (fun m => !m.isTopMark ",") :: others := by
  fun_induction splitCommas ms with
  | case1 => exact ⟨[], rfl⟩
  | case2 m rest hcomma ih => exact ⟨_, by rw [List.takeWhile_cons_of_neg (by simpa using hcomma)]⟩
  | case3 m rest hcomma heq ih =>
      obtain ⟨others, h⟩ := ih
      rw [heq] at h
      cases h
  | case4 m rest hcomma segment segments heq ih =>
      obtain ⟨others, h⟩ := ih
      rw [heq] at h
      cases h
      exact ⟨segments, by rw [List.takeWhile_cons_of_pos (by simpa using hcomma)]⟩

/-- A statement without parameters declares nothing if its first declarator does not. -/
theorem variableDeclarators_eq_nil_iff {first : List Marked} {others : List (List Marked)}
    (h : splitCommas ms = first :: others) :
    variableDeclarators ms = [] ↔ segmentVariable? true first = none := by
  rw [variableDeclarators, h]
  cases hname : segmentVariable? true first <;> simp [hname]

theorem variableDeclarators_markTop_eq_nil_iff (ts : List Token) :
    variableDeclarators (markTop {} ts) = [] ↔ ∀ before name, ¬ EndsTyped ts before name := by
  obtain ⟨others, hsplit⟩ := splitCommas_head (markTop {} ts)
  have hfirst : ∀ name, segmentVariable? true ((markTop {} ts).takeWhile fun m => !m.isTopMark ",") =
      some name ↔ ∃ before, firstDeclarator ts = before ++ [name] ∧
        name.isName = true ∧ isQualified before = false ∧ (true = true → hasType before = true) := by
    intro name
    rw [segmentVariable?_eq_some_iff, List.takeWhile_takeWhile]
    simp [firstDeclarator]
  rw [variableDeclarators_eq_nil_iff hsplit, Option.eq_none_iff_forall_ne_some]
  constructor
  · intro h before name hends
    exact h name ((hfirst name).mpr
      ⟨before, hends.first, hends.isName, hends.unqualified, fun _ => hends.typed⟩)
  · intro h name hsome
    obtain ⟨before, hts, hname, hqualified, htype⟩ := (hfirst name).mp hsome
    exact h before name ⟨hts, hname, hqualified, htype rfl⟩

/-- A statement with neither parameters nor an initial value declares variables, if any. -/
theorem declaredBy_of_firstOfInterest (hoperator : ts.any (·.isWord "operator") = false)
    (h : firstOfInterest (markTop {} ts) = none) :
    declaredBy ts site =
      if ts.head?.any (isWordOf skippedHeads) then [] else variableDeclarators (markTop {} ts) := by
  simp only [declaredBy, hoperator, Bool.or_false, h]

/-! ## What a type opening tells of a statement -/

/-- Whether the body of a type is opened. -/
def Opening.opensType : Opening → Bool
  | .record _ _ | .enumeration _ => true
  | .namespaceBody | .function _ | .initializer | .block => false

/-- Whether a token begins the head of a type. -/
def isTypeKeyword (t : Token) : Bool := isWordOf ["class", "struct", "union", "enum"] t

/-- What opens the body of a type has neither parameters nor an initial value. -/
theorem openAfter_opensType (h : (openAfter ts site).opensType = true) :
    ts.any (·.isWord "operator") = false ∧ firstOfInterest (markTop {} ts) = none ∧
      openAfter ts site = openPlain ts := by
  rcases openAfter_cases ts site with
    hother | ⟨hundecided, ⟨hnone, hplain⟩ | ⟨head, paren, after, -, hopening⟩⟩
  · simp only [List.mem_cons, List.not_mem_nil, or_false] at hother
    rcases hother with h' | h' | h' | h' <;> rw [h'] at h <;> cases h
  · exact ⟨hundecided.unoperated, hnone, hplain⟩
  · rw [hopening, openAfterParameters] at h
    split at h <;> cases h

theorem openPlain_opensType (h : (openPlain ts).opensType = true) :
    typeOpening? ts = some (openPlain ts) := by
  unfold openPlain at h ⊢
  cases hopening : typeOpening? ts with
  | some opening => rfl
  | none =>
      simp only [hopening] at h
      split at h <;> cases h

theorem Nesting.after_of_kind_ne_mark (n : Nesting) {t : Token} (h : t.kind ≠ .mark) : n.after t = n := by
  simp [after, h]

theorem IsLinkage.kind_ne_mark (h : IsLinkage linkage) : ∀ t ∈ linkage, t.kind ≠ .mark := by
  rcases h with rfl | ⟨first, second, rfl, hword, hliteral⟩
  · simp
  · simp only [Token.isWord, Bool.and_eq_true, decide_eq_true_eq] at hword
    simp [hword.1, hliteral]

theorem IsLinkage.not_isWord {text : String} (h : IsLinkage linkage) (htext : text ≠ "extern") :
    ∀ t ∈ linkage, t.isWord text = false := by
  rcases h with rfl | ⟨first, second, rfl, hword, hliteral⟩
  · simp
  · simp only [Token.isWord, Bool.and_eq_true, decide_eq_true_eq, beq_iff_eq] at hword
    simp [Token.isWord, hword, htext.symm, hliteral]

theorem markTop_append_of_kind_ne_mark (n : Nesting) (hts : ∀ t ∈ ts, t.kind ≠ .mark) (us : List Token) :
    markTop n (ts ++ us) = ts.map (⟨·, n.isTop⟩) ++ markTop n us := by
  induction ts with
  | nil => rfl
  | cons t rest ih =>
      obtain ⟨ht, hrest⟩ := List.forall_mem_cons.mp hts
      rw [List.cons_append, markTop, Nesting.after_of_kind_ne_mark n ht, ih hrest]
      rfl

theorem firstOfInterest_withoutLinkage (h : firstOfInterest (markTop {} ts) = none) :
    firstOfInterest (markTop {} (withoutLinkage ts)) = none := by
  obtain ⟨linkage, hlinkage, hts⟩ := exists_linkage ts
  rw [hts, markTop_append_of_kind_ne_mark {} hlinkage.kind_ne_mark] at h
  rw [firstOfInterest, cutAtFirst_eq_none_iff] at h ⊢
  exact fun m hm => h m (List.mem_append_right _ hm)

theorem IsLinkage.not_isTypeKeyword (h : IsLinkage linkage) : ∀ t ∈ linkage, isTypeKeyword t = false := by
  rcases h with rfl | ⟨first, second, rfl, hword, hliteral⟩
  · simp
  · simp only [Token.isWord, Bool.and_eq_true, decide_eq_true_eq, beq_iff_eq] at hword
    simp [isTypeKeyword, isWordOf, hword, hliteral]

theorem dropWhile_withoutLinkage (ts : List Token) :
    (withoutLinkage ts).dropWhile (fun t => !isTypeKeyword t) = ts.dropWhile fun t => !isTypeKeyword t := by
  obtain ⟨linkage, hlinkage, hts⟩ := exists_linkage ts
  conv => rhs; rw [hts]
  rw [List.dropWhile_append_of_pos fun t ht => by simp [hlinkage.not_isTypeKeyword t ht]]

/-! ## The names of a head -/

theorem headNames_append {us : List Token} (h : us.head?.any (·.isMark "::") = false) :
    headNames (ts ++ us) = headNames ts ++ headNames us := by
  induction ts with
  | nil => rfl
  | cons t rest ih =>
      have hnext : (rest ++ us).head?.any (·.isMark "::") = rest.head?.any (·.isMark "::") := by
        cases rest with
        | nil => simpa using h
        | cons next rest => rfl
      rw [List.cons_append, headNames, headNames, hnext, ih]
      split <;> rfl

theorem headNames_cons_of_not_isName {t : Token} (h : t.isName = false) :
    headNames (t :: ts) = headNames ts := by
  simp [headNames, h]

theorem withoutMacros_concat (names : List Token) (last : Token) :
    withoutMacros (names ++ [last]) = names.filter (fun t => !isExportMacro t.text) ++ [last] := by
  simp [withoutMacros]

/-- If only one name is left without the macros, only macros stand in front of any other. -/
theorem isExportMacro_of_length_le {names later : List Token} (hlater : later ≠ [])
    (h : (withoutMacros (names ++ later)).length ≤ 1) :
    ∀ t ∈ names, isExportMacro t.text = true := by
  obtain ⟨leading, last, rfl⟩ := (List.eq_nil_or_concat later).resolve_left hlater
  rw [List.concat_eq_append, ← List.append_assoc, withoutMacros_concat, List.length_append,
    List.length_singleton] at h
  have hnone : (names ++ leading).filter (fun t => !isExportMacro t.text) = [] :=
    List.eq_nil_of_length_eq_zero (by omega)
  rw [List.filter_eq_nil_iff] at hnone
  exact fun t ht => by simpa using hnone t (List.mem_append_left _ ht)

/-- The names behind the first keyword of a type that count when a brace follows: up to a colon or to template
arguments, without qualifiers, `final`, and export macros in front of the last. -/
def typeNames (ts : List Token) : List Token :=
  withoutMacros (headNames
    ((ts.dropWhile fun t => !isTypeKeyword t).tail.takeWhile fun t => !isOneOf [":", "<"] t))

theorem typeOpening?_of_dropWhile {keyword : Token} {rest : List Token}
    (hdrop : ts.dropWhile (fun t => !isTypeKeyword t) = keyword :: rest) :
    typeOpening? ts =
      if 2 ≤ (typeNames ts).length then some .initializer
      else if keyword.text == "enum" then some (.enumeration (typeNames ts).getLast?)
      else (RecordKind.ofKeyword? keyword.text).map fun kind => .record kind (typeNames ts).getLast? := by
  have hclass : ∀ t : Token, isWordOf ["class", "struct"] t = true →
      t.isName = false ∧ isOneOf [":", "<"] t = false := by
    intro t ht
    simp only [isWordOf, Bool.and_eq_true, decide_eq_true_eq, List.contains_iff_mem, List.mem_cons,
      List.not_mem_nil, or_false] at ht
    obtain ⟨hkind, htext | htext⟩ := ht <;> constructor <;>
      simp [Token.isName, isOneOf, hkind, htext] <;> decide
  -- A scoped enumeration's second keyword is no name, so that leaving it out leaves the names.
  have hnames : withoutMacros (headNames
      ((if keyword.text == "enum" && rest.head?.any (isWordOf ["class", "struct"])
        then rest.drop 1 else rest).takeWhile fun t => !isOneOf [":", "<"] t)) = typeNames ts := by
    rw [typeNames, hdrop, List.tail_cons]
    split
    · rename_i hscoped
      cases rest with
      | nil => simp
      | cons second rest =>
          simp only [List.head?_cons, Option.any_some, Bool.and_eq_true] at hscoped
          obtain ⟨hname, hmark⟩ := hclass second hscoped.2
          rw [List.takeWhile_cons_of_pos (by simp [hmark]), headNames_cons_of_not_isName hname]
          rfl
    · rfl
  unfold typeOpening?
  simp only [isTypeKeyword] at hdrop
  rw [hdrop]
  simp only [hnames]

/-- The head of a type that is opened has at most one name behind its keyword that is no export macro. -/
theorem typeOpening?_opensType {keyword : Token} {rest : List Token} {opening : Opening}
    (hdrop : ts.dropWhile (fun t => !isTypeKeyword t) = keyword :: rest)
    (h : typeOpening? ts = some opening) (hopens : opening.opensType = true) :
    (typeNames ts).length ≤ 1 := by
  rw [typeOpening?_of_dropWhile hdrop] at h
  split at h
  · cases h
    cases hopens
  · rename_i hlength
    omega

theorem not_isMark_colons_of_endsDeclarator {t : Token} (h : endsDeclarator t = true) :
    t.isMark "::" = false := by
  simp only [endsDeclarator, isOneOf, Bool.or_eq_true, Bool.and_eq_true, decide_eq_true_eq,
    List.contains_iff_mem, List.mem_cons, List.not_mem_nil, or_false] at h
  rcases h with hgroup | ⟨-, htext⟩
  · simp [Token.isMark, hgroup]
  · rcases htext with htext | htext | htext | htext | htext <;> simp [Token.isMark, htext]

/-- What follows the first declarator begins with a mark that ends one. -/
theorem firstDeclarator_append (ts : List Token) :
    ∃ more, ts = firstDeclarator ts ++ more ∧ more.head?.any (·.isMark "::") = false := by
  let continues : Marked → Bool := fun m => !(m.isTop && endsDeclarator m.token) && !m.isTopMark ","
  refine ⟨tokensOf ((markTop {} ts).dropWhile continues), ?_, ?_⟩
  · rw [firstDeclarator, tokensOf, tokensOf, ← List.map_append, List.takeWhile_append_dropWhile]
    exact (tokensOf_markTop {} ts).symm
  · have hhead := List.head?_dropWhile_not continues (markTop {} ts)
    cases hdrop : (markTop {} ts).dropWhile continues with
    | nil => rfl
    | cons m rest =>
        rw [hdrop] at hhead
        simp only [List.head?_cons, continues, Bool.and_eq_false_iff, Bool.not_eq_false',
          Bool.and_eq_true, Marked.isTopMark] at hhead
        rcases hhead with ⟨-, hends⟩ | ⟨-, hcomma⟩
        · exact not_isMark_colons_of_endsDeclarator hends
        · exact Token.not_isMark hcomma (by decide)

/-- Where a head opens the body of a type, only export macros stand as names of their own between its keyword
and a name that ends the first declarator. -/
theorem headNames_between_of_opensType {head between : List Token} {keyword : Token} {opening : Opening}
    (h : typeOpening? ts = some opening) (hopens : opening.opensType = true)
    (hfirst : firstDeclarator ts = head ++ keyword :: between ++ [name])
    (hhead : ∀ t ∈ head, isTypeKeyword t = false) (hkeyword : isTypeKeyword keyword = true)
    (hbetween : ∀ t ∈ between, isOneOf [":", "<"] t = false) (hname : name.isName = true)
    (hfinal : name.text ≠ "final") :
    ∀ t ∈ headNames between, isExportMacro t.text = true := by
  obtain ⟨more, hts, hmore⟩ := firstDeclarator_append ts
  have hdrop : ts.dropWhile (fun t => !isTypeKeyword t) = keyword :: (between ++ name :: more) := by
    rw [hts, hfirst, List.append_assoc, List.append_assoc,
      List.dropWhile_append_of_pos fun t ht => by simp [hhead t ht]]
    simp [hkeyword]
  have hlength := typeOpening?_opensType hdrop h hopens
  have hkind : name.kind = .word := by
    simp only [Token.isName, Bool.and_eq_true, decide_eq_true_eq] at hname
    exact hname.1
  let later := more.takeWhile fun t => !isOneOf [":", "<"] t
  have hnext : later.head?.any (·.isMark "::") = false := by
    cases more with
    | nil => rfl
    | cons next more =>
        simp only [later, List.takeWhile_cons]
        split
        · exact hmore
        · rfl
  have hlast : headNames (name :: later) = name :: headNames later := by
    simp [headNames, hname, hfinal, hnext]
  rw [typeNames, hdrop, List.tail_cons, List.takeWhile_append_of_pos fun t ht => by simp [hbetween t ht],
    List.takeWhile_cons_of_pos (by simp [isOneOf, hkind]),
    headNames_append (by simp [Token.isMark, hkind])] at hlength
  exact isExportMacro_of_length_le (by simp [later, hlast]) hlength

/-- Where a head opens the body of a type, a semicolon in place of the brace makes nothing known, unless the
first declarator ends in a name with something in front of it that names a type. Behind the keyword, up to
template arguments, that can only be what the opening leaves out: an export macro, a qualifier, `final` or a
built-in type. -/
theorem classifyStatement_eq_nil_iff_of_opensType {statement : List Token}
    (h : (classifyOpen statement site).opensType = true) :
    (classifyStatement statement site = [] ↔
      (withoutLinkage (normalize statement)).head?.any (isWordOf skippedHeads) = true ∨
        ∀ before name, ¬ EndsTyped (withoutLinkage (normalize statement)) before name) ∧
    ∀ head keyword between name,
      EndsTyped (withoutLinkage (normalize statement)) (head ++ keyword :: between) name →
        name.text ≠ "final" → (∀ t ∈ head, isTypeKeyword t = false) → isTypeKeyword keyword = true →
          (∀ t ∈ between, isOneOf [":", "<"] t = false) →
            ∀ t ∈ headNames between, isExportMacro t.text = true := by
  have hafter : classifyOpen statement site = openAfter (normalize statement) site := by
    unfold classifyOpen at h ⊢
    split at h
    · cases h
    · rw [if_neg (by assumption)]
  rw [hafter] at h
  obtain ⟨hoperator, hnone, hplain⟩ := openAfter_opensType h
  rw [hplain] at h
  have hopening := openPlain_opensType h
  constructor
  · have hoperator' : (withoutLinkage (normalize statement)).any (·.isWord "operator") = false := by
      rw [List.any_eq_false] at hoperator ⊢
      exact fun t ht => hoperator t ((withoutLinkage_sublist _).mem ht)
    rw [classifyStatement, declaredBy_of_firstOfInterest hoperator' (firstOfInterest_withoutLinkage hnone),
      ← variableDeclarators_markTop_eq_nil_iff]
    split <;> simp [*]
  · intro head keyword between name hends hfinal hhead hkeyword hbetween
    have hsame : typeOpening? (withoutLinkage (normalize statement)) = typeOpening? (normalize statement) := by
      have hdrop := dropWhile_withoutLinkage (normalize statement)
      simp only [isTypeKeyword] at hdrop
      rw [typeOpening?, hdrop, ← typeOpening?]
    exact headNames_between_of_opensType (hsame.trans hopening) h hends.first hhead hkeyword hbetween
      hends.isName hfinal

/-- The second keyword of a scoped enumeration names no type. -/
theorem classifyStatement_eq_nil_scoped_enum :
    (classifyOpen (tokens "enum class Mode : int") .global).opensType = true ∧
      classifyStatement (tokens "enum class Mode : int") .global = [] := by
  have hopens : (classifyOpen (tokens "enum class Mode : int") .global).opensType = true := by
    decide +kernel
  have hfirst : firstDeclarator (withoutLinkage (normalize (tokens "enum class Mode : int"))) =
      [⟨.word, "enum", ⟨1, 1⟩⟩, ⟨.word, "class", ⟨1, 6⟩⟩] ++ [⟨.word, "Mode", ⟨1, 12⟩⟩] := by
    decide +kernel
  refine ⟨hopens, (classifyStatement_eq_nil_iff_of_opensType hopens).1.mpr (.inr ?_)⟩
  intro before name hends
  obtain ⟨rfl, -⟩ := List.append_singleton_inj.mp (hfirst.symm.trans hends.first)
  exact absurd hends.typed (by decide)

/-- An export macro names a type for the declaration, though not for the opening. -/
theorem classifyStatement_ne_nil_exported_class :
    (∀ t ∈ tokens "class MYLIB_API Widget", t.kind ≠ .group ∧ t.kind ≠ .body) ∧
      classifyOpen (tokens "class MYLIB_API Widget") .global =
        .record .classRecord (some ⟨.word, "Widget", ⟨1, 17⟩⟩) ∧
      classifyStatement (tokens "class MYLIB_API Widget") .global =
        [⟨.variable, ⟨.word, "Widget", ⟨1, 17⟩⟩⟩] := by
  decide +kernel

end NameLint.Declaration
