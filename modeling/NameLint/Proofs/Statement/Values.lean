import NameLint.Proofs.Statement.Types

/-!
# Values

Behind an equals sign angle brackets compare. A comma between template arguments in a value therefore ends the
declarator, unless it stands in parentheses or square brackets as well, and what follows is read as another one.
-/

namespace NameLint.Declaration

open NameLint.Source

variable {piece : List Marked} {type value : List Token} {name equals other : Token} {site : Site}

/-- The pieces of a value between its commas outside of brackets. Only behind the first of them angle brackets
enclose template arguments again. -/
def valuePieces (value : List Token) : List (List Marked) :=
  splitCommas (markTop { inInitializer := true } (normalize value))

/-- Whether a piece of a value names something as a declarator does: up to what ends a declarator, it ends in a
name of its own. -/
def Names (piece : List Marked) (other : Token) : Prop :=
  ∃ before, tokensOf (piece.takeWhile continuesDeclarator) = before ++ [other] ∧ other.isName = true ∧
    isQualified before = false

theorem segmentVariable?_false_iff : segmentVariable? false piece = some other ↔ Names piece other := by
  rw [segmentVariable?_eq_some_iff]
  simp only [Bool.false_eq_true, false_implies, and_true]
  rfl

theorem normalize_assigned (htype : TypeSpecifier type) (hname : name.isName = true)
    (hequals : equals.isMark "=" = true) (value : List Token) :
    normalize (type ++ name :: equals :: value) = normalize type ++ name :: equals :: normalize value := by
  have hkind := Token.kind_of_isName hname
  have hstart : (name :: equals :: value).head?.any isGroupStart = false := by
    simp [isGroupStart, Token.isMark, hkind]
  have hnext : ∀ next ∈ (equals :: value).head?, beginsDropped name next = false := by
    rintro next ⟨⟩
    have hsquare : name.isMark "[" = false := by simp [Token.isMark, hkind]
    simp [beginsDropped, hsquare, Token.not_isMark hequals]
  rw [htype.bracketed.normalize_append htype.headerless hstart, normalize_cons hnext,
    normalize_cons fun _ _ => beginsDropped_of_isMark hequals (by simp [Token.not_isMark hequals])]

theorem markTop_assigned (htype : Bracketed true isTypeToken type) (hname : name.isName = true)
    (hequals : equals.isMark "=" = true) (value : List Token) :
    markTop {} (type ++ name :: equals :: value) =
      (markTop {} type ++ [⟨name, true⟩, ⟨equals, true⟩]) ++ markTop { inInitializer := true } value := by
  have hkind := Token.kind_of_isName hname
  have hafter : ({} : Nesting).after equals = { inInitializer := true } := by
    rw [Nesting.after_eq]
    simp [Token.not_isMark hequals, hequals, Nesting.isTop]
  rw [markTop_append, htype.foldl_type rfl, markTop, Nesting.after_of_kind_ne_mark _ (by simp [hkind]), markTop,
    hafter]
  simp [Nesting.isTop]

/-- A variable with a value is declared, and with it whatever the pieces of the value behind the first name. -/
theorem classifyStatement_assigned (htype : TypeSpecifier type) (hname : name.isName = true)
    (hequals : equals.isMark "=" = true) :
    classifyStatement (type ++ name :: equals :: value) site =
      if (normalize (type ++ name :: equals :: value)).any (·.isWord "operator") then []
      else (name :: (valuePieces value).tail.filterMap (segmentVariable? false)).map (⟨.variable, ·⟩) := by
  obtain ⟨hbracketed, htyped, hqualified, hdeclares⟩ := htype.normalize
  have hne : normalize type ≠ [] := fun hnil => by simp [hnil, hasType] at htyped
  rw [classifyStatement, normalize_assigned htype hname hequals,
    withoutLinkage_type_append hbracketed htyped]
  split
  · rename_i hoperator
    simp [declaredBy, hoperator]
  · rename_i hoperator
    have hkind := Token.kind_of_isName hname
    have hmarks := markTop_assigned hbracketed hname hequals (normalize value)
    have hfree : Unparenthesized (markTop {} (normalize type ++ name :: equals :: normalize value)) := by
      rw [hmarks, List.append_assoc]
      refine .append (hbracketed.isTopMark_type (by decide)) ?_
      simp [unparenthesized_cons, Marked.isTopMark, Token.isMark, hkind, Token.isMark_text hequals,
        Token.kind_of_isMark hequals]
    have hcomma : ∀ m ∈ markTop {} (normalize type) ++ [⟨name, true⟩, ⟨equals, true⟩],
        m.isTopMark "," = false := by
      rw [List.forall_mem_append]
      refine ⟨hbracketed.isTopMark_type (by decide), ?_⟩
      simp [Marked.isTopMark, Token.isMark, hkind, Token.isMark_text hequals]
    obtain ⟨first, others, hsplit⟩ := List.exists_cons_of_ne_nil
      (splitCommas_ne_nil (markTop { inInitializer := true } (normalize value)))
    have hfirst : segmentVariable? true
        (markTop {} (normalize type) ++ [⟨name, true⟩, ⟨equals, true⟩] ++ first) = some name := by
      rw [List.append_assoc]
      refine segmentVariable?_of_type hbracketed hname hqualified (fun _ => htyped) ?_
      rintro m ⟨⟩
      exact ⟨rfl, endsDeclarator_of_isMark hequals (by decide)⟩
    rw [declaredBy_of_unparenthesized_marks hfree (by simpa using hoperator)
      (by rw [List.head?_append_of_ne_nil _ hne, hdeclares]), hmarks]
    simp only [variableDeclarators, splitCommas_append_of_no_comma hcomma hsplit, hfirst, valuePieces, hsplit,
      List.tail_cons]

/-- Where all commas of a value are in parentheses or square brackets, it is one piece. -/
theorem valuePieces_tail_of_bracketed (hheaderless : Headerless value) (h : Bracketed false notComma value) :
    (valuePieces value).tail = [] := by
  have hkept := (h.thinned hheaderless).bracketed
  rw [valuePieces, splitCommas_of_no_comma (hkept.not_isTopMark_comma _)]
  rfl

/-- A variable with a value is the only one that its statement declares, unless a piece of the value behind the
first names another. That takes a comma outside of all parentheses and square brackets. -/
theorem classifyStatement_assigned_only_iff (site : Site) (htype : TypeSpecifier type)
    (hname : name.isName = true) (hequals : equals.isMark "=" = true) (value : List Token) :
    ((∀ d ∈ classifyStatement (type ++ name :: equals :: value) site, d.name = name) ↔
        (normalize (type ++ name :: equals :: value)).any (·.isWord "operator") = true ∨
          ∀ piece ∈ (valuePieces value).tail, ∀ other, Names piece other → other = name) ∧
      (Headerless value → Bracketed false notComma value →
        ∀ d ∈ classifyStatement (type ++ name :: equals :: value) site, d.name = name) := by
  have hiff : (∀ d ∈ classifyStatement (type ++ name :: equals :: value) site, d.name = name) ↔
      (normalize (type ++ name :: equals :: value)).any (·.isWord "operator") = true ∨
        ∀ piece ∈ (valuePieces value).tail, ∀ other, Names piece other → other = name := by
    rw [classifyStatement_assigned htype hname hequals]
    split
    · rename_i hoperator
      simp [hoperator]
    · rename_i hoperator
      simp only [hoperator, Bool.false_eq_true, false_or, List.map_cons, List.forall_mem_cons, true_and,
        List.forall_mem_map, List.mem_filterMap, segmentVariable?_false_iff]
      exact ⟨fun h piece hpiece other hother => h other ⟨piece, hpiece, hother⟩,
        fun h other ⟨piece, hpiece, hother⟩ => h piece hpiece other hother⟩
  refine ⟨hiff, fun hheaderless hbracketed => hiff.mpr (.inr ?_)⟩
  rw [valuePieces_tail_of_bracketed hheaderless hbracketed]
  exact nofun

/-- A name behind a comma is none of its own in front of a closing angle bracket, nor in parentheses. -/
theorem classifyStatement_assigned_only_two_arguments :
    (∀ d ∈ classifyStatement (tokens "int x = f<a, b>(c)") .global, d.name = ⟨.word, "x", ⟨1, 5⟩⟩) ∧
      ∀ d ∈ classifyStatement (tokens "int x = f(a, b, c)") .global, d.name = ⟨.word, "x", ⟨1, 5⟩⟩ := by
  have htemplate : tokens "int x = f<a, b>(c)" =
      [⟨.word, "int", ⟨1, 1⟩⟩] ++ ⟨.word, "x", ⟨1, 5⟩⟩ :: ⟨.mark, "=", ⟨1, 7⟩⟩ ::
        (tokens "int x = f<a, b>(c)").drop 3 := by
    decide +kernel
  have hcall : tokens "int x = f(a, b, c)" =
      [⟨.word, "int", ⟨1, 1⟩⟩] ++ ⟨.word, "x", ⟨1, 5⟩⟩ :: ⟨.mark, "=", ⟨1, 7⟩⟩ :: ⟨.word, "f", ⟨1, 9⟩⟩ ::
        (⟨.mark, "(", ⟨1, 10⟩⟩ :: [⟨.word, "a", ⟨1, 11⟩⟩, ⟨.mark, ",", ⟨1, 12⟩⟩, ⟨.word, "b", ⟨1, 14⟩⟩,
          ⟨.mark, ",", ⟨1, 15⟩⟩, ⟨.word, "c", ⟨1, 17⟩⟩] ++ ⟨.mark, ")", ⟨1, 18⟩⟩ :: []) := by
    decide +kernel
  have hpieces : ∀ piece ∈ (valuePieces ((tokens "int x = f<a, b>(c)").drop 3)).tail,
      segmentVariable? false piece = none := by
    decide +kernel
  have htype : TypeSpecifier [⟨.word, "int", ⟨1, 1⟩⟩] := typeSpecifier_of_words (by decide) (by decide)
  constructor
  · rw [htemplate]
    refine (classifyStatement_assigned_only_iff .global htype (by decide) (by decide) _).1.mpr
      (.inr fun piece hpiece other hother => ?_)
    rw [← segmentVariable?_false_iff, hpieces piece hpiece] at hother
    cases hother
  · rw [hcall]
    exact (classifyStatement_assigned_only_iff .global htype (by decide) (by decide) _).2 (by decide)
      (.token (by decide) (by decide) (.group (by decide) (by decide) (.of_plain (by decide)) .nil))

/-- A name between two commas of template arguments, or behind the closing bracket, is reported. -/
theorem classifyStatement_assigned_not_only_three_arguments :
    classifyStatement (tokens "int x = f<a, b, c>()") .global =
        [⟨.variable, ⟨.word, "x", ⟨1, 5⟩⟩⟩, ⟨.variable, ⟨.word, "b", ⟨1, 14⟩⟩⟩] ∧
      classifyStatement (tokens "bool x = is_same_v<A, B> && y") .global =
        [⟨.variable, ⟨.word, "x", ⟨1, 6⟩⟩⟩, ⟨.variable, ⟨.word, "y", ⟨1, 29⟩⟩⟩] := by
  decide +kernel

end NameLint.Declaration
