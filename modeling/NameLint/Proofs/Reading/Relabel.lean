import Mathlib.Data.List.Basic
import NameLint.Proofs.Reading.Names
import NameLint.Proofs.Statement.Relabel

/-!
# Reading relabelled tokens

Where tokens stand, what literals say and how names are spelled does not influence reading: relabelled tokens
lead through relabelled states, and the new names become known in the places of the old ones.
-/

namespace NameLint.Declaration

open NameLint.Source

/-- An occurrence under its new name, at its new place. -/
def Occurrence.relabel (ρ : Relabelling) (o : Occurrence) : Occurrence :=
  ⟨o.context, ρ.names.rename o.name, ρ.move o.place⟩

/-- A kind of scope with a new name for its record. -/
def ScopeKind.relabel (ρ : Relabelling) : ScopeKind → ScopeKind
  | .recordBody kind name access => .recordBody kind (name.map ρ.names.rename) access
  | kind => kind

/-- A frame with its record and the tokens of its declaration relabelled. -/
def Frame.relabel (ρ : Relabelling) (frame : Frame) : Frame :=
  ⟨frame.kind.relabel ρ, frame.declaration.map (·.relabel ρ)⟩

/-- An error at its new place. -/
def ExtractError.relabel (ρ : Relabelling) : ExtractError → ExtractError
  | .notUtf8 offset => .notUtf8 offset
  | .unbalancedBrace place => .unbalancedBrace (ρ.move place)
  | .nestingTooDeep place limit => .nestingTooDeep (ρ.move place) limit

/-- What was found, under its new names and at its new places. -/
def Extraction.relabel (ρ : Relabelling) (x : Extraction) : Extraction :=
  ⟨x.found.map (·.relabel ρ), x.failed.map (·.relabel ρ)⟩

variable (ρ : Relabelling)

theorem Occurrence.relabel_ofToken (context : Context) {n : Token} (h : n.isName = true) :
    Occurrence.ofToken context (n.relabel ρ) = (Occurrence.ofToken context n).relabel ρ := by
  simp only [ofToken, relabel, Token.text_relabel_of_isName ρ h, Token.place_relabel]

theorem map_ofToken_relabel (context : Context) {name : Option Token}
    (h : ∀ n, name = some n → n.isName = true) :
    (name.map (·.relabel ρ)).map (.ofToken context) =
      (name.map (.ofToken context)).map (Occurrence.relabel ρ) := by
  cases name with
  | none => rfl
  | some n => exact congrArg some (Occurrence.relabel_ofToken ρ context (h n rfl))

theorem map_text_relabel {name : Option Token} (h : ∀ n, name = some n → n.isName = true) :
    (name.map (·.relabel ρ)).map (·.text) = (name.map (·.text)).map ρ.names.rename := by
  cases name with
  | none => rfl
  | some n => exact congrArg some (Token.text_relabel_of_isName ρ (h n rfl))

/-! ## Scopes -/

@[simp] theorem Site.context?_relabel (site : Site) (entity : Entity) :
    (site.relabel ρ).context? entity = site.context? entity := by
  cases site <;> rfl

namespace Scopes

variable (scopes : Scopes)

@[simp] theorem site_relabel : site (scopes.map (Frame.relabel ρ)) = (site scopes).relabel ρ := by
  rcases scopes with _ | ⟨⟨kind, declaration⟩, outer⟩
  · rfl
  · cases kind <;> rfl

@[simp] theorem isHidden_relabel : isHidden (scopes.map (Frame.relabel ρ)) = isHidden scopes := by
  rcases scopes with _ | ⟨⟨kind, declaration⟩, outer⟩
  · rfl
  · cases kind <;> rfl

theorem setAccess_relabel (access : Access) :
    setAccess (scopes.map (Frame.relabel ρ)) access = (setAccess scopes access).map (Frame.relabel ρ) := by
  cases scopes with
  | nil => rfl
  | cons frame outer =>
      obtain ⟨kind, declaration⟩ := frame
      cases kind <;> rfl

end Scopes

namespace Reading

/-- A state of reading with all its tokens relabelled. -/
def relabel (r : Reading) : Reading :=
  ⟨r.scopes.map (Frame.relabel ρ), r.statement.map (·.relabel ρ)⟩

variable {limit : Nat} {r s : Reading} {t : Token} {found : List Occurrence}

@[simp] theorem scopes_relabel (r : Reading) :
    (r.relabel ρ).scopes = r.scopes.map (Frame.relabel ρ) := rfl

@[simp] theorem statement_relabel (r : Reading) :
    (r.relabel ρ).statement = r.statement.map (·.relabel ρ) := rfl

/-! ## What braces open and close -/

theorem opening_relabel (r : Reading) : (r.relabel ρ).opening = r.opening.relabel ρ := by
  simp only [opening, scopes_relabel, statement_relabel, Scopes.isHidden_relabel,
    Scopes.site_relabel, classifyOpen_relabel]
  split <;> rfl

theorem isName_of_opening {n : Token} (h : r.opening.name? = some n) : n.isName = true := by
  unfold opening at h
  split at h
  · cases h
  · exact (classifyOpen_name h).2

theorem openedFrame_relabel (r : Reading) : (r.relabel ρ).openedFrame = r.openedFrame.relabel ρ := by
  simp only [openedFrame, opening_relabel]
  cases hopening : r.opening <;> simp only [Opening.relabel]
  case record kind name =>
    rw [map_text_relabel ρ fun n hn => isName_of_opening (r := r) (by simp [hopening, Opening.name?, hn])]
    rfl
  all_goals rfl

theorem openedStatement_relabel (r : Reading) :
    (r.relabel ρ).openedStatement = r.openedStatement.map (·.relabel ρ) := by
  simp only [openedStatement, scopes_relabel, Scopes.isHidden_relabel, statement_relabel,
    opening_relabel]
  split
  · rfl
  · cases r.opening <;> rfl

theorem openedName?_relabel (r : Reading) :
    (r.relabel ρ).openedName? = r.openedName?.map (Occurrence.relabel ρ) := by
  have hisName : ∀ name, r.opening.name? = name → ∀ n, name = some n → n.isName = true :=
    fun name hname n hn => isName_of_opening (hname.trans hn)
  simp only [openedName?, opening_relabel, scopes_relabel, Scopes.site_relabel, Site.context?_relabel]
  cases hopening : r.opening <;> simp only [Opening.relabel, Option.map_none]
  case record kind name =>
    simp only [map_ofToken_relabel ρ _ (hisName name (by rw [hopening]; rfl)), Option.map_bind,
      Function.comp_def]
  case enumeration name =>
    exact map_ofToken_relabel ρ _ (hisName name (by rw [hopening]; rfl))
  case function name =>
    simp only [map_ofToken_relabel ρ _ (hisName name (by rw [hopening]; rfl)), Option.map_bind,
      Function.comp_def]

theorem closedStatement_relabel {frame : Frame} {outer : Scopes} (brace : t.closesBrace = true) :
    (r.relabel ρ).closedStatement (frame.relabel ρ) (outer.map (Frame.relabel ρ)) (t.relabel ρ) =
      (r.closedStatement frame outer t).map (·.relabel ρ) := by
  have hkind : t.kind = .mark := by
    simp only [Token.closesBrace, Token.isMark, Bool.and_eq_true, decide_eq_true_eq] at brace
    exact brace.1
  have hgroup : { t.relabel ρ with kind := .group } = Token.relabel ρ { t with kind := .group } := by
    simp [Token.relabel, hkind]
  have hbody : { t.relabel ρ with kind := .body } = Token.relabel ρ { t with kind := .body } := by
    simp [Token.relabel, hkind]
  simp only [closedStatement, Scopes.isHidden_relabel, statement_relabel, Frame.relabel, hgroup, hbody]
  split
  · rfl
  · cases frame.kind <;> simp [ScopeKind.relabel]

/-! ## Statements and labels -/

theorem endStatement_relabel (r : Reading) :
    (r.relabel ρ).endStatement =
      (r.endStatement.1.relabel ρ, r.endStatement.2.map (Occurrence.relabel ρ)) := by
  have hisName := (classifyStatement_names r.statement r.scopes.site).2
  simp only [endStatement, scopes_relabel, statement_relabel, Scopes.site_relabel,
    Site.context?_relabel, classifyStatement_relabel, List.filterMap_map, List.map_filterMap]
  refine Prod.ext rfl (List.filterMap_congr fun d hd => ?_)
  simp only [Function.comp_def, Declarator.relabel, Option.map_map,
    Occurrence.relabel_ofToken ρ _ (hisName d hd)]

theorem ofKeyword?_rename (σ : Renaming) (word : String) :
    Access.ofKeyword? (σ.rename word) = Access.ofKeyword? word := by
  by_cases h : isMeaningful word = true
  · rw [σ.fixes word h]
  · -- A word without a meaning gets a name that is no keyword of an access level either.
    have hother : ∀ keyword, isMeaningful keyword = true → word ≠ keyword ∧ σ.rename word ≠ keyword := by
      intro keyword hkeyword
      have hne : word ≠ keyword := fun heq => h (heq ▸ hkeyword)
      exact ⟨hne, fun heq => hne ((σ.rename_eq_iff hkeyword).mp heq)⟩
    simp [Access.ofKeyword?, hother "public" (by decide), hother "protected" (by decide),
      hother "private" (by decide)]

theorem accessOf?_relabel (t : Token) : accessOf? (t.relabel ρ) = accessOf? t := by
  by_cases h : t.kind = .word
  · simp [accessOf?, h, Token.text_relabel_of_word ρ h, ofKeyword?_rename]
  · simp [accessOf?, h]

theorem labelAccess?_relabel (statement : List Token) :
    labelAccess? (statement.map (·.relabel ρ)) = labelAccess? statement := by
  simp only [labelAccess?, ← List.map_reverse]
  cases statement.reverse with
  | nil => rfl
  | cons last before =>
      simp only [List.map_cons, accessOf?_relabel, Token.isName_relabel, List.head?_map]
      cases before.head? <;> simp [accessOf?_relabel]

theorem endLabel?_relabel (r : Reading) :
    (r.relabel ρ).endLabel? = r.endLabel?.map (relabel ρ) := by
  unfold endLabel?
  simp only [scopes_relabel, statement_relabel, Scopes.site_relabel, labelAccess?_relabel]
  cases r.scopes.site <;> simp only [Site.relabel, Option.map_none]
  cases labelAccess? r.statement with
  | some access => simp [relabel, Scopes.setAccess_relabel]
  | none =>
      rcases r.statement with _ | ⟨label, _ | ⟨next, rest⟩⟩
      · rfl
      · simp only [List.map_cons, List.map_nil, Token.isName_relabel]
        split <;> rfl
      · rfl

/-! ## Steps and runs -/

/-- Each transition has its like on relabelled tokens. -/
theorem Step.relabel (h : Step limit r t s found) :
    Step limit (r.relabel ρ) (t.relabel ρ) (s.relabel ρ) (found.map (Occurrence.relabel ρ)) := by
  cases h with
  | opens brace room =>
      have hstep : Step limit (r.relabel ρ) (t.relabel ρ) _ _ := .opens (by simpa) (by simpa)
      rw [openedFrame_relabel, openedStatement_relabel, openedName?_relabel] at hstep
      simpa [Reading.relabel, Option.toList_map] using hstep
  | closes brace open_ =>
      have hstep : Step limit (r.relabel ρ) (t.relabel ρ) _ _ :=
        .closes (by simpa) (by rw [scopes_relabel, open_, List.map_cons])
      rw [closedStatement_relabel ρ brace] at hstep
      exact hstep
  | passes notOpening notClosing hidden => exact .passes (by simpa) (by simpa) (by simpa)
  | ends semicolon visible =>
      have hstep : Step limit (r.relabel ρ) (t.relabel ρ) _ _ := .ends (by simpa) (by simpa)
      rw [endStatement_relabel] at hstep
      exact hstep
  | labels colon visible label =>
      exact .labels (by simpa) (by simpa) (by rw [endLabel?_relabel, label, Option.map_some])
  | continues notOpening notClosing visible notEnd notLabel =>
      have hstep : Step limit (r.relabel ρ) (t.relabel ρ) _ _ :=
        .continues (by simpa) (by simpa) (by simpa) (by simpa)
          (by simpa [endLabel?_relabel] using notLabel)
      simpa [Reading.relabel, push] using hstep

theorem step_relabel_error {e : ExtractError} (h : r.step limit t = .error e) :
    (r.relabel ρ).step limit (t.relabel ρ) = .error (e.relabel ρ) := by
  rw [step_eq_error_iff] at h ⊢
  rcases h with ⟨brace, full, rfl⟩ | ⟨brace, hnil, rfl⟩
  · exact .inl ⟨by simpa, by simpa, rfl⟩
  · exact .inr ⟨by simpa, by simp [hnil], rfl⟩

/-- From relabelled tokens the same is extracted, at the new places. -/
theorem extractFrom_relabel (limit : Nat) (r : Reading) (ts : List Token) :
    extractFrom limit (r.relabel ρ) (ts.map (·.relabel ρ)) = (extractFrom limit r ts).relabel ρ := by
  induction ts generalizing r with
  | nil => rfl
  | cons t ts ih =>
      cases hstep : r.step limit t with
      | error e => simp [extractFrom, hstep, step_relabel_error ρ hstep, Extraction.relabel]
      | ok p =>
          obtain ⟨s, found⟩ := p
          have h := Step.of_step_eq hstep
          rw [List.map_cons, h.extractFrom_cons, (h.relabel ρ).extractFrom_cons, ih]
          simp [after, Extraction.relabel]

end Reading

end NameLint.Declaration
