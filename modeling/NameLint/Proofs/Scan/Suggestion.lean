import NameLint.Proofs.Naming.Words
import NameLint.Proofs.Scan.Check

/-!
# Suggested names as source text

What is suggested for a misspelled name is a name in the style that was expected. Read as source text by itself
it is one token, and but for two cases an identifier: flat case lets a name begin with a digit, and no style
keeps away from the reserved words.
-/

namespace NameLint.Naming

open NameLint.Unicode

/-! ## Words in lower case -/

theorem toLowerChars_ne_nil (c : Char) : toLowerChars c ≠ [] := by
  unfold toLowerChars
  repeat' split
  all_goals simp

theorem toLowerText_ne_nil {word : List Char} (h : word ≠ []) : toLowerText word ≠ [] := by
  cases word with
  | nil => exact absurd rfl h
  | cons c rest =>
      rw [toLowerText, toLowerFrom]
      repeat' split
      all_goals simp [toLowerChars_ne_nil]

namespace Style

variable {style : Style} {name t : String} {cs : List Char}

/-! ## What a style offers -/

theorem accepts_nil : style.accepts [] = true ↔ style = .flat := by
  cases style <;> decide

/-- In flat case as in the others there is no empty respelling. -/
theorem join_flat_ne_nil {words : List (List Char)} (hwords : words ≠ []) (h : ∀ w ∈ words, w ≠ []) :
    flat.join words ≠ [] := by
  obtain ⟨w, rest, rfl⟩ := List.exists_cons_of_ne_nil hwords
  simp [join, toLowerText_ne_nil (h w (List.mem_cons_self ..))]

theorem of_convert_eq_some (h : style.convert name = some t) :
    style.accepts t.toList = true ∧ t.toList ≠ [] := by
  simp only [convert] at h
  split at h
  · cases h
  rename_i hwords
  split at h
  · rename_i hjoined
    cases h
    have haccepts := (Bool.and_eq_true_iff.mp hjoined).2
    rw [String.toList_ofList]
    refine ⟨haccepts, fun hnil => ?_⟩
    rw [hnil, accepts_nil] at haccepts
    subst haccepts
    exact join_flat_ne_nil (by simpa using hwords) (fun w hw => ne_nil_of_mem_splitWords hw) hnil
  · cases h

/-! ## The characters of a style -/

theorem plain_of_accepts (hkebab : style ≠ .kebab) (htrain : style ≠ .train)
    (h : style.accepts cs = true) : ∀ c ∈ cs, c.isAlphanum = true ∨ c = '_' := by
  cases cs with
  | nil => simp
  | cons c rest =>
      cases style <;>
        simp_all [accepts, leading?, acceptsTail, isLowerOrDigit, isUpperOrDigit, Source.isAlphanum_iff,
          Source.isAlpha_iff] <;>
        grind

/-- Only flat case lets a name begin with a digit. -/
theorem begins_of_accepts (hflat : style ≠ .flat) (h : style.accepts cs = true) :
    cs.head?.any Char.isAlpha = true := by
  cases cs with
  | nil => exact absurd (accepts_nil.mp h) hflat
  | cons c rest =>
      cases style <;> simp_all [accepts, leading?, Source.isAlpha_iff]

theorem all_isAlphanum_of_accepts_flat (h : flat.accepts cs = true) : cs.all Char.isAlphanum = true := by
  simp only [accepts, leading?, acceptsTail, isLowerOrDigit, List.all_eq_true, Bool.or_eq_true] at h ⊢
  intro c hc
  rcases h c hc with hlower | hdigit
  · simp [Source.isAlphanum_iff, Source.isAlpha_iff, hlower]
  · simp [Source.isAlphanum_iff, hdigit]

theorem begins_upper_of_accepts (hstyle : style = .pascal ∨ style = .screamingSnake)
    (h : style.accepts cs = true) : cs.head?.any Char.isUpper = true := by
  cases cs with
  | nil => rcases hstyle with rfl | rfl <;> cases h
  | cons c rest => rcases hstyle with rfl | rfl <;> simp_all [accepts, leading?]

end Style

end NameLint.Naming

namespace NameLint.Source

open NameLint.Naming

/-! ## Reading a name in a style -/

/-- Whether a text begins with a digit. -/
def beginsWithDigit (t : String) : Bool := t.toList.head?.any Char.isDigit

theorem isKeyword_of_begins_upper {t : String} (h : t.toList.head?.any Char.isUpper = true) :
    isKeyword t = false := by
  have hall : keywords.all (fun word => !word.toList.head?.any Char.isUpper) = true := by decide
  rw [Bool.eq_false_iff, ne_eq, isKeyword, List.contains_iff_mem]
  intro hmem
  simpa [h] using List.all_eq_true.mp hall t hmem

theorem tokens_of_accepts_word {style : Style} {t : String} (hkebab : style ≠ .kebab)
    (htrain : style ≠ .train) (h : style.accepts t.toList = true)
    (hbegins : t.toList.head?.any Char.isAlpha = true) :
    tokens t = [⟨.word, t, .start⟩] := by
  have hplain := Style.plain_of_accepts hkebab htrain h
  let name : Identifier :=
    { text := t
      begins := by
        cases hcs : t.toList with
        | nil => simp [hcs] at hbegins
        | cons c rest =>
            have hc : c.isAlpha = true := by simpa [hcs] using hbegins
            simpa [isIdentStart_of_isAlphanum (isAlphanum_iff.mpr (.inl hc))] using hc
      continues := List.all_eq_true.mpr fun c hc => by
        rcases hplain c hc with halphanum | rfl
        · exact isIdentContinue_of_isAlphanum halphanum
        · decide
      unbroken := List.all_eq_true.mpr fun c hc => by
        rcases hplain c hc with halphanum | rfl
        · simp [isBlank_of_isAlphanum halphanum]
        · decide }
  have htokens : tokensFrom true .start (t.toList ++ []) = _ := tokensFrom_identifier_append name (by simp)
  simpa [tokens, tokensFrom_nil] using htokens

theorem tokens_of_accepts_number {t : String} (h : Style.flat.accepts t.toList = true)
    (hdigit : beginsWithDigit t = true) : tokens t = [⟨.literal, t, .start⟩] := by
  have hall := Style.all_isAlphanum_of_accepts_flat h
  unfold beginsWithDigit at hdigit
  unfold tokens
  cases hcs : t.toList with
  | nil => simp [hcs] at hdigit
  | cons c rest =>
      rw [hcs, List.all_cons, Bool.and_eq_true] at hall
      rw [tokensFrom_number (by simpa [hcs] using hdigit) hall.2, ← hcs, String.ofList_toList]

end NameLint.Source

namespace NameLint.Scan

open NameLint.Config NameLint.Declaration NameLint.FileTree NameLint.Naming NameLint.Report
  NameLint.Source

/-! ## Suggestions of violations -/

variable {config : Configuration} {limit : Nat} {file : Path} {text t : String}
  {violations : List Violation} {v : Violation}

/-- Only a style suggests a name, and the name is spelled in it. -/
theorem accepts_of_suggestion {style : Style} (h : checkText config limit file text = .ok violations)
    (hv : v ∈ violations) (hstyle : v.expected = style.name) (ht : v.suggestion = some t) :
    style.accepts t.toList = true ∧ t.toList ≠ [] := by
  obtain ⟨-, rfl⟩ := checkText_eq_ok_iff.mp h
  obtain ⟨o, -, ho⟩ := List.mem_filterMap.mp hv
  obtain ⟨pattern, -, -, rfl⟩ := evaluate_eq_some_iff.mp ho
  cases pattern with
  | custom source expr => cases ht
  | builtin style' =>
      have hsame : style' = style := by
        simpa [Pattern.name] using congrArg Style.ofName? hstyle
      subst hsame
      exact Style.of_convert_eq_some ht

/-- A name that is suggested in a style without hyphens is one token. It is an identifier that is not reserved
unless it is a reserved word or, in flat case, begins with a digit; styles that begin with a capital suggest
nothing else. -/
theorem suggestion_is_identifier_iff {style : Style} (h : checkText config limit file text = .ok violations)
    (hv : v ∈ violations) (hstyle : v.expected = style.name) (hkebab : style ≠ .kebab)
    (htrain : style ≠ .train) (ht : v.suggestion = some t) :
    ∃ token, tokens t = [token] ∧ token.text = t ∧
      (token.kind = .word ↔ ¬ (style = .flat ∧ beginsWithDigit t = true)) ∧
      (token.isName = true ↔ ¬ (style = .flat ∧ beginsWithDigit t = true) ∧ isKeyword t = false) ∧
      (style = .pascal ∨ style = .screamingSnake → token.isName = true) := by
  obtain ⟨haccepts, hnonempty⟩ := accepts_of_suggestion h hv hstyle ht
  have hupper : style = .pascal ∨ style = .screamingSnake → isKeyword t = false := fun hcapital =>
    isKeyword_of_begins_upper (Style.begins_upper_of_accepts hcapital haccepts)
  by_cases hnumber : style = .flat ∧ beginsWithDigit t = true
  · obtain ⟨rfl, hdigit⟩ := hnumber
    refine ⟨_, tokens_of_accepts_number haccepts hdigit, rfl, ?_, ?_, ?_⟩
    · simp [hdigit]
    · simp [hdigit, Token.isName]
    · simp
  · have hbegins : t.toList.head?.any Char.isAlpha = true := by
      by_cases hflat : style = .flat
      · subst hflat
        have hall := Style.all_isAlphanum_of_accepts_flat haccepts
        unfold beginsWithDigit at hnumber
        cases hcs : t.toList with
        | nil => exact absurd hcs hnonempty
        | cons c rest => simp_all [isAlphanum_iff]
      · exact Style.begins_of_accepts hflat haccepts
    refine ⟨_, tokens_of_accepts_word hkebab htrain haccepts hbegins, rfl, by simp [hnumber], ?_, ?_⟩
    · simp [hnumber, Token.isName]
    · exact fun hcapital => by simp [Token.isName, hupper hcapital]

/-- Global variables in a style, and nothing else. -/
def variablesIn (style : Style) : Configuration := ⟨[⟨.global .variable, .builtin style, 1⟩]⟩

theorem suggestion_is_identifier_http_server :
    ∃ violations v, checkText (variablesIn .snake) 256 "a.cpp" "int HTTPServer_v2;" = .ok violations ∧
      v ∈ violations ∧ v.expected = Style.snake.name ∧ v.suggestion = some "http_server_v2" ∧
      ∃ token, tokens "http_server_v2" = [token] ∧ token.isName = true := by
  obtain ⟨violations, v, h, hv, hstyle, ht⟩ : ∃ violations v,
      checkText (variablesIn .snake) 256 "a.cpp" "int HTTPServer_v2;" = .ok violations ∧
        v ∈ violations ∧ v.expected = Style.snake.name ∧ v.suggestion = some "http_server_v2" := by
    refine ⟨[⟨"a.cpp", ⟨1, 5⟩, "HTTPServer_v2", .global .variable, Style.snake.name,
      some "http_server_v2"⟩], _, ?_, List.mem_singleton_self _, rfl, rfl⟩
    decide +kernel
  obtain ⟨token, htoken, -, -, hname, -⟩ :=
    suggestion_is_identifier_iff h hv hstyle (by decide) (by decide) ht
  exact ⟨violations, v, h, hv, hstyle, ht, token, htoken, hname.mpr (by decide)⟩

/-- A capitalized type word is respelled as the type word, and in flat case an underscore before a number is
dropped. -/
theorem suggestion_reserved_or_number :
    checkText (variablesIn .snake) 256 "a.cpp" "int Int;" =
        .ok [⟨"a.cpp", ⟨1, 5⟩, "Int", .global .variable, Style.snake.name, some "int"⟩] ∧
      (tokens "int").all (!·.isName) = true ∧
    checkText (variablesIn .flat) 256 "a.cpp" "int _1;" =
        .ok [⟨"a.cpp", ⟨1, 5⟩, "_1", .global .variable, Style.flat.name, some "1"⟩] ∧
      (tokens "1").all (!·.isName) = true := by
  decide +kernel

end NameLint.Scan
