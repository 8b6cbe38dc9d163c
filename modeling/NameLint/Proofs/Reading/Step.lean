import NameLint.Declaration.Occurrence

/-!
# What one token does

The transitions of reading as a relation with one rule for each kind of token: a brace opens or closes
exactly one scope, and nothing else changes how many are open. `step` takes a transition of the relation,
or it refuses a brace.
-/

namespace NameLint.Source

theorem Token.isMark_text {t : Token} {text : String} (h : t.isMark text = true) : t.text = text := by
  simp only [Token.isMark, Bool.and_eq_true, beq_iff_eq] at h
  exact h.2

theorem Token.not_isMark {t : Token} {text other : String} (h : t.isMark text = true)
    (hne : text ≠ other) : t.isMark other = false := by
  have ht := isMark_text h
  simp [Token.isMark, ht, hne]

theorem Token.not_closesBrace {t : Token} (h : t.opensBrace = true) : t.closesBrace = false :=
  not_isMark h (by decide)

theorem Token.not_opensBrace {t : Token} (h : t.closesBrace = true) : t.opensBrace = false :=
  not_isMark h (by decide)

end NameLint.Source

namespace NameLint.Declaration

open NameLint.Source

namespace Reading

/-! ## What a brace opens -/

/-- What the next opening brace belongs to: only a block where nothing is looked at. -/
def opening (r : Reading) : Opening :=
  if r.scopes.isHidden then .block else classifyOpen r.statement r.scopes.site

/-- The scope that the next opening brace opens. -/
def openedFrame (r : Reading) : Frame :=
  match r.opening with
  | .initializer => ⟨.initializer, []⟩
  | .record kind name => ⟨.recordBody kind (name.map (·.text)) kind.defaultAccess, r.statement⟩
  | .enumeration _ => ⟨.enumBody, r.statement⟩
  | .function _ => ⟨.functionBody, []⟩
  | .namespaceBody => ⟨.namespaceBody, []⟩
  | .block => ⟨.block, []⟩

/-- The statement at hand after the next opening brace. -/
def openedStatement (r : Reading) : List Token :=
  if r.scopes.isHidden then r.statement
  else match r.opening with
    | .initializer => r.statement
    | _ => []

/-- The name that the next opening brace makes known. -/
def openedName? (r : Reading) : Option Occurrence :=
  match r.opening with
  | .record kind name => kind.context?.bind fun context => name.map (.ofToken context)
  | .enumeration name => name.map (.ofToken .enumType)
  | .function name =>
    (r.scopes.site.context? .function).bind fun context => name.map (.ofToken context)
  | .initializer | .namespaceBody | .block => none

/-- The statement at hand after a brace has closed a scope inside some others. -/
def closedStatement (r : Reading) (frame : Frame) (outer : Scopes) (brace : Token) : List Token :=
  if outer.isHidden then r.statement
  else match frame.kind with
    | .initializer => r.statement ++ [{ brace with kind := .group }]
    | .recordBody _ _ _ | .enumBody => frame.declaration ++ [{ brace with kind := .body }]
    | .namespaceBody | .functionBody | .block => []

theorem openedFrame_declaration (r : Reading) :
    r.openedFrame.declaration = r.statement ∨ r.openedFrame.declaration = [] := by
  unfold openedFrame
  cases r.opening <;> simp

theorem openedStatement_cases (r : Reading) :
    r.openedStatement = [] ∨ r.openedStatement = r.statement ∧ r.openedName? = none := by
  unfold openedStatement openedName?
  cases hidden : r.scopes.isHidden with
  | true => simp [opening, hidden]
  | false => cases r.opening <;> simp

/-- A statement that goes on after braces is the one before them, or the declaration they belong to, with a
placeholder behind it. -/
theorem closedStatement_cases (r : Reading) (frame : Frame) (outer : Scopes) (brace : Token) :
    r.closedStatement frame outer brace = [] ∨
      r.closedStatement frame outer brace = r.statement ∨
      r.closedStatement frame outer brace = r.statement ++ [{ brace with kind := .group }] ∨
      r.closedStatement frame outer brace = frame.declaration ++ [{ brace with kind := .body }] := by
  unfold closedStatement
  split
  · simp
  · cases frame.kind <;> simp

/-! ## The transitions -/

/-- `r.Step limit t s found`: the token `t` leads from `r` to `s` and makes the names `found` known. -/
inductive Step (limit : Nat) (r : Reading) (t : Token) : Reading → List Occurrence → Prop
  | opens (brace : t.opensBrace = true) (room : r.scopes.length < limit) :
      Step limit r t ⟨r.openedFrame :: r.scopes, r.openedStatement⟩ r.openedName?.toList
  | closes {frame : Frame} {outer : Scopes} (brace : t.closesBrace = true)
      (open_ : r.scopes = frame :: outer) :
      Step limit r t ⟨outer, r.closedStatement frame outer t⟩ []
  | passes (notOpening : t.opensBrace = false) (notClosing : t.closesBrace = false)
      (hidden : r.scopes.isHidden = true) : Step limit r t r []
  | ends (semicolon : t.isMark ";" = true) (visible : r.scopes.isHidden = false) :
      Step limit r t r.endStatement.1 r.endStatement.2
  | labels {s : Reading} (colon : t.isMark ":" = true) (visible : r.scopes.isHidden = false)
      (label : r.endLabel? = some s) : Step limit r t s []
  | continues (notOpening : t.opensBrace = false) (notClosing : t.closesBrace = false)
      (visible : r.scopes.isHidden = false) (notEnd : t.isMark ";" = false)
      (notLabel : t.isMark ":" = true → r.endLabel? = none) : Step limit r t (r.push t) []

theorem openBrace_eq (limit : Nat) (r : Reading) (place : Position)
    (visible : r.scopes.isHidden = false) :
    r.openBrace limit place =
      if limit ≤ r.scopes.length then .error (.nestingTooDeep place limit)
      else .ok (⟨r.openedFrame :: r.scopes, r.openedStatement⟩, r.openedName?.toList) := by
  unfold openBrace openedFrame openedStatement openedName? opening
  simp only [visible, Bool.false_eq_true, if_false]
  cases classifyOpen r.statement r.scopes.site <;>
    (simp only [openType, openPlain, Scopes.push]; split <;> rfl)

theorem closeBrace_eq (r : Reading) (brace : Token) :
    r.closeBrace brace =
      match r.scopes with
      | [] => .error (.unbalancedBrace brace.place)
      | frame :: outer => .ok (⟨outer, r.closedStatement frame outer brace⟩, []) := by
  unfold closeBrace
  cases hs : r.scopes with
  | nil => rfl
  | cons frame outer =>
      simp only [Scopes.pop, Except.map, closedStatement]
      split
      · rfl
      · cases frame.kind <;> rfl

/-- An opening brace opens one scope, whatever it belongs to, unless the limit is reached. -/
theorem step_opensBrace {limit : Nat} {r : Reading} {t : Token} (h : t.opensBrace = true) :
    r.step limit t =
      if limit ≤ r.scopes.length then .error (.nestingTooDeep t.place limit)
      else .ok (⟨r.openedFrame :: r.scopes, r.openedStatement⟩, r.openedName?.toList) := by
  unfold step
  split
  · rename_i hidden
    simp only [stepHidden, h, if_true, Scopes.push, openedFrame, openedStatement, openedName?,
      opening, hidden]
    split <;> rfl
  · rename_i visible
    simp only [stepVisible, h, if_true]
    exact openBrace_eq limit r t.place (by simpa using visible)

theorem step_closesBrace {limit : Nat} {r : Reading} {t : Token} (h : t.closesBrace = true) :
    r.step limit t =
      match r.scopes with
      | [] => .error (.unbalancedBrace t.place)
      | frame :: outer => .ok (⟨outer, r.closedStatement frame outer t⟩, []) := by
  rw [← closeBrace_eq]
  unfold step
  split <;> simp [stepHidden, stepVisible, h, Token.not_opensBrace h]

theorem step_other {limit : Nat} {r : Reading} {t : Token} (ho : t.opensBrace = false)
    (hc : t.closesBrace = false) : ∃ s found, r.step limit t = .ok (s, found) := by
  unfold step
  split
  · exact ⟨r, [], by simp [stepHidden, ho, hc]⟩
  · simp only [stepVisible, ho, hc, Bool.false_eq_true, if_false]
    split
    · exact ⟨_, _, rfl⟩
    · split
      · exact ⟨_, _, rfl⟩
      · exact ⟨_, _, rfl⟩

theorem Step.step_eq {limit : Nat} {r s : Reading} {t : Token} {found : List Occurrence}
    (h : Step limit r t s found) : r.step limit t = .ok (s, found) := by
  cases h with
  | opens brace room => rw [step_opensBrace brace, if_neg (Nat.not_le.mpr room)]
  | closes brace open_ => rw [step_closesBrace brace, open_]
  | passes ho hc hidden => simp [step, hidden, stepHidden, ho, hc]
  | ends semicolon visible =>
      have ho : t.opensBrace = false := Token.not_isMark semicolon (by decide)
      have hc : t.closesBrace = false := Token.not_isMark semicolon (by decide)
      simp [step, visible, stepVisible, ho, hc, semicolon]
  | labels colon visible label =>
      have ho : t.opensBrace = false := Token.not_isMark colon (by decide)
      have hc : t.closesBrace = false := Token.not_isMark colon (by decide)
      have he : t.isMark ";" = false := Token.not_isMark colon (by decide)
      simp [step, visible, stepVisible, ho, hc, he, colon, label]
  | continues ho hc visible notEnd notLabel =>
      by_cases colon : t.isMark ":" = true
      · simp [step, visible, stepVisible, ho, hc, notEnd, colon, notLabel colon]
      · simp [step, visible, stepVisible, ho, hc, notEnd, colon]

theorem Step.of_step_eq {limit : Nat} {r s : Reading} {t : Token} {found : List Occurrence}
    (h : r.step limit t = .ok (s, found)) : Step limit r t s found := by
  by_cases ho : t.opensBrace = true
  · rw [step_opensBrace ho] at h
    split at h
    · cases h
    · cases h
      exact .opens ho (Nat.not_le.mp ‹_›)
  rw [Bool.not_eq_true] at ho
  by_cases hc : t.closesBrace = true
  · rw [step_closesBrace hc] at h
    split at h
    · cases h
    · cases h
      exact .closes hc ‹_›
  rw [Bool.not_eq_true] at hc
  unfold step at h
  split at h
  · rename_i hidden
    simp only [stepHidden, ho, hc, Bool.false_eq_true, if_false, Except.ok.injEq,
      Prod.mk.injEq] at h
    obtain ⟨rfl, rfl⟩ := h
    exact .passes ho hc hidden
  · rename_i visible
    rw [Bool.not_eq_true] at visible
    simp only [stepVisible, ho, hc, Bool.false_eq_true, if_false] at h
    split at h
    · cases h
      exact .ends ‹_› visible
    · rename_i notEnd
      rw [Bool.not_eq_true] at notEnd
      split at h
      · rename_i colon
        simp only [Except.ok.injEq, Prod.mk.injEq] at h
        obtain ⟨rfl, rfl⟩ := h
        cases label : r.endLabel? with
        | none => exact .continues ho hc visible notEnd fun _ => label
        | some s => exact .labels colon visible label
      · rename_i notColon
        simp only [Except.ok.injEq, Prod.mk.injEq] at h
        obtain ⟨rfl, rfl⟩ := h
        exact .continues ho hc visible notEnd fun colon => absurd colon notColon

theorem step_eq_ok_iff {limit : Nat} {r s : Reading} {t : Token} {found : List Occurrence} :
    r.step limit t = .ok (s, found) ↔ Step limit r t s found :=
  ⟨Step.of_step_eq, Step.step_eq⟩

/-- What `step` refuses: an opening brace at the limit, and a closing brace with nothing open. -/
theorem step_eq_error_iff {limit : Nat} {r : Reading} {t : Token} {e : ExtractError} :
    r.step limit t = .error e ↔
      (t.opensBrace = true ∧ limit ≤ r.scopes.length ∧ e = .nestingTooDeep t.place limit) ∨
      (t.closesBrace = true ∧ r.scopes = [] ∧ e = .unbalancedBrace t.place) := by
  by_cases ho : t.opensBrace = true
  · rw [step_opensBrace ho]
    simp only [ho, Token.not_closesBrace ho, true_and, Bool.false_eq_true, false_and, or_false]
    split
    · rename_i full
      simp only [Except.error.injEq, full, true_and]
      exact eq_comm
    · rename_i room
      simp [room]
  by_cases hc : t.closesBrace = true
  · rw [step_closesBrace hc]
    simp only [ho, hc, true_and, Bool.false_eq_true, false_and, false_or]
    cases r.scopes with
    | nil => simpa using eq_comm
    | cons frame outer => simp
  obtain ⟨s, found, h⟩ : ∃ s found, r.step limit t = .ok (s, found) :=
    step_other (Bool.not_eq_true _ ▸ ho) (Bool.not_eq_true _ ▸ hc)
  simp [h, ho, hc]

end Reading

end NameLint.Declaration
