import NameLint.Proofs.Statement.Alike
import NameLint.Proofs.Statement.Functions

/-!
# Friends

A friend of a record is no member of it. Only the first word of a statement is compared with `friend`, though:
in any other place it is read as one specifier among others, as `inline` is.
-/

namespace NameLint.Declaration

open NameLint.Source

variable {f : Token → Token} {statement : List Token} {site : Site} {t : Token}

/-! ## Names that are left alone -/

theorem map_declarators_eq_self {declarators : List Declarator} (h : ∀ d ∈ declarators, f d.name = d.name) :
    declarators.map (·.map f) = declarators := by
  refine (List.map_congr_left fun d hd => ?_).trans (List.map_id _)
  rw [Declarator.map, h d hd]
  rfl

theorem Opening.map_eq_self {opening : Opening} (h : ∀ n, opening.name? = some n → f n = n) :
    opening.map f = opening := by
  have hname : ∀ name : Option Token, opening.name? = name → name.map f = name := by
    intro name hopening
    cases name with
    | none => rfl
    | some n => exact congrArg some (h n hopening)
  cases opening with
  | record kind name => rw [Opening.map, hname name rfl]
  | enumeration name => rw [Opening.map, hname name rfl]
  | function name => rw [Opening.map, hname name rfl]
  | namespaceBody | initializer | block => rfl

/-! ## Another specifier in the place of `friend` -/

/-- The token with `inline` in the place of `friend`. -/
def inlined (t : Token) : Token := if t.isWord "friend" then { t with text := "inline" } else t

theorem inlined_of_not_isWord (h : t.isWord "friend" = false) : inlined t = t := by
  simp [inlined, h]

theorem inlined_of_isName (h : t.isName = true) : inlined t = t := by
  apply inlined_of_not_isWord
  by_contra hfriend
  simp only [Bool.not_eq_false, Token.isWord, Bool.and_eq_true, beq_iff_eq] at hfriend
  simp [Token.isName, hfriend, isKeyword, keywords] at h

theorem kind_inlined (t : Token) : (inlined t).kind = t.kind := by
  unfold inlined
  split <;> rfl

theorem text_inlined (t : Token) :
    (inlined t).text = t.text ∨ t.text = "friend" ∧ (inlined t).text = "inline" := by
  unfold inlined
  split
  · rename_i hfriend
    simp only [Token.isWord, Bool.and_eq_true, beq_iff_eq] at hfriend
    exact .inr ⟨hfriend.2, rfl⟩
  · exact .inl rfl

/-- Neither word is looked for but at the start, and both are reserved. -/
theorem readsAlike_inlined : ReadsAlike inlined where
  kind := kind_inlined
  mark t hmark := by rw [inlined_of_not_isWord (by simp [Token.isWord, hmark])]
  word t _ text htext := by
    have hunread : ∀ text ∈ readWords, "inline" ≠ text ∧ "friend" ≠ text := by decide
    rcases text_inlined t with hsame | ⟨hfriend, hinline⟩
    · rw [hsame]
    · rw [hfriend, hinline]
      exact iff_of_false (hunread text htext).1 (hunread text htext).2
  keyword t _ := by
    rcases text_inlined t with hsame | ⟨hfriend, hinline⟩
    · rw [hsame]
    · rw [hfriend, hinline]
      decide
  exportMacro t _ := by
    rcases text_inlined t with hsame | ⟨hfriend, hinline⟩
    · rw [hsame]
    · rw [hfriend, hinline]
      decide

theorem keepsConstructors_inlined (site : Site) : KeepsConstructors inlined site site := by
  intro t h
  rw [inlined_of_isName h]

theorem isWord_eq_false_of_head {ts : List Token} {text : String}
    (h : ts.head?.any (·.isWord text) = false) : ∀ t ∈ ts.head?, t.isWord text = false := by
  intro t ht
  simpa using (Option.any_eq_false _ _).mp h t ht

/-! ## What friends declare -/

theorem classifyStatement_inlined
    (h : (withoutLinkage (normalize statement)).head?.any (·.isWord "friend") = false) :
    classifyStatement (statement.map inlined) site = classifyStatement statement site := by
  have hnames := (classifyStatement_names statement site).2
  rw [readsAlike_inlined.classifyStatement_map (keepsConstructors_inlined site)]
  · exact map_declarators_eq_self fun d hd => inlined_of_isName (hnames d hd)
  · intro t ht
    rw [inlined_of_not_isWord (isWord_eq_false_of_head h t ht)]

theorem classifyOpen_inlined (h : (normalize statement).head?.any (·.isWord "friend") = false) :
    classifyOpen (statement.map inlined) site = classifyOpen statement site := by
  rw [readsAlike_inlined.classifyOpen_map (keepsConstructors_inlined site)]
  · exact Opening.map_eq_self fun n hn => inlined_of_isName (classifyOpen_name hn).2
  · intro t ht
    rw [inlined_of_not_isWord (isWord_eq_false_of_head h t ht)]

/-- A statement that begins with `friend` declares nothing, and a brace behind it opens no function that is
reported. In any other statement `friend` counts as much as `inline`. -/
theorem classify_friend (statement : List Token) (site : Site) :
    (classifyStatement statement site =
      if (withoutLinkage (normalize statement)).head?.any (·.isWord "friend") then []
      else classifyStatement (statement.map inlined) site) ∧
    ∀ name, classifyOpen statement site = .function (some name) ↔
      (normalize statement).head?.any (·.isWord "friend") = false ∧
        classifyOpen (statement.map inlined) site = .function (some name) := by
  constructor
  · split
    · rename_i hfriend
      have hskipped : (withoutLinkage (normalize statement)).head?.any (isWordOf skippedHeads) = true := by
        obtain ⟨t, ht, hword⟩ := (Option.any_eq_true _ _).mp hfriend
        simp only [Token.isWord, Bool.and_eq_true, decide_eq_true_eq, beq_iff_eq] at hword
        simp [ht, isWordOf, hword, skippedHeads]
      simp only [classifyStatement, declaredBy, hskipped, Bool.true_or]
      rfl
    · rename_i hfriend
      exact (classifyStatement_inlined (by simpa using hfriend)).symm
  · intro name
    constructor
    · intro hopen
      have hfriend : (normalize statement).head?.any (·.isWord "friend") = false := by
        obtain ⟨-, head, paren, after, hopens⟩ := classifyOpen_eq_function_iff.mp hopen
        exact hopens.friendless
      exact ⟨hfriend, (classifyOpen_inlined hfriend).trans hopen⟩
    · rintro ⟨hfriend, hopen⟩
      rwa [classifyOpen_inlined hfriend] at hopen

/-- A friend with a specifier in front of `friend` is reported as a member. -/
theorem classify_friend_behind_specifier :
    (∃ m ∈ markTop {} (tokens "inline friend void swap(Widget& a, Widget& b)"),
      m.isTop = true ∧ m.token.isWord "friend" = true) ∧
    classifyOpen (tokens "inline friend void swap(Widget& a, Widget& b)")
      (.member .isPublic (some "Widget")) = .function (some ⟨.word, "swap", ⟨1, 20⟩⟩) ∧
    classifyStatement (tokens "inline friend void swap(Widget& a, Widget& b)")
      (.member .isPublic (some "Widget")) = [⟨.function, ⟨.word, "swap", ⟨1, 20⟩⟩⟩] := by
  decide +kernel

end NameLint.Declaration
