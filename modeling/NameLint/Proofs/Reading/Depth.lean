import NameLint.Proofs.Reading.Items
import NameLint.Proofs.Source.Place

/-!
# Which braces are refused

The number of open scopes is the depth of the braces that were read, whatever the statements between them
declare. So a text is refused at the first brace after which the depth would be negative or beyond the
limit, and nowhere else.
-/

namespace NameLint.Declaration

open NameLint.Source

/-! ## The depth of braces -/

/-- How many more braces are opened than closed in some tokens. -/
def braceDepth (ts : List Token) : Int :=
  ts.countP (·.opensBrace) - ts.countP (·.closesBrace)

@[simp] theorem braceDepth_nil : braceDepth [] = 0 := rfl

theorem braceDepth_append (ts us : List Token) :
    braceDepth (ts ++ us) = braceDepth ts + braceDepth us := by
  simp only [braceDepth, List.countP_append]
  omega

theorem braceDepth_cons (t : Token) (ts : List Token) :
    braceDepth (t :: ts) = braceDepth [t] + braceDepth ts :=
  braceDepth_append [t] ts

theorem braceDepth_opensBrace {t : Token} (h : t.opensBrace = true) : braceDepth [t] = 1 := by
  simp [braceDepth, h, Token.not_closesBrace h]

theorem braceDepth_closesBrace {t : Token} (h : t.closesBrace = true) : braceDepth [t] = -1 := by
  simp [braceDepth, h, Token.not_opensBrace h]

theorem braceDepth_other {t : Token} (ho : t.opensBrace = false) (hc : t.closesBrace = false) :
    braceDepth [t] = 0 := by
  simp [braceDepth, ho, hc]

/-- Before token `i`, and after each token before it, the depth is neither negative nor beyond the
limit. -/
def DepthWithin (limit : Nat) (ts : List Token) (i : Nat) : Prop :=
  ∀ j ≤ i, 0 ≤ braceDepth (ts.take j) ∧ braceDepth (ts.take j) ≤ limit

theorem DepthWithin.index_unique {limit : Nat} {ts : List Token} {i j : Nat}
    (hi : DepthWithin limit ts i) (hj : DepthWithin limit ts j)
    (hi' : ¬ (0 ≤ braceDepth (ts.take (i + 1)) ∧ braceDepth (ts.take (i + 1)) ≤ limit))
    (hj' : ¬ (0 ≤ braceDepth (ts.take (j + 1)) ∧ braceDepth (ts.take (j + 1)) ≤ limit)) : i = j := by
  rcases Nat.lt_trichotomy i j with h | h | h
  · exact absurd (hj (i + 1) h) hi'
  · exact h
  · exact absurd (hi (j + 1) h) hj'

/-! ## The number of open scopes -/

@[simp] theorem Scopes.length_setAccess (scopes : Scopes) (access : Access) :
    (scopes.setAccess access).length = scopes.length := by
  unfold setAccess
  split <;> rfl

namespace Reading

variable {limit : Nat} {r s : Reading} {t : Token} {ts : List Token} {found : List Occurrence}

theorem endLabel?_scopes (h : r.endLabel? = some s) :
    s.statement = [] ∧ (s.scopes = r.scopes ∨ ∃ access, s.scopes = r.scopes.setAccess access) := by
  unfold endLabel? at h
  split at h
  · split at h
    · cases h
      exact ⟨rfl, .inr ⟨_, rfl⟩⟩
    · split at h
      · split at h
        · cases h
          exact ⟨rfl, .inl rfl⟩
        · cases h
      · cases h
  · cases h

/-- A token changes the number of open scopes as it changes the depth. -/
theorem Step.length_scopes (h : Step limit r t s found) :
    (s.scopes.length : Int) = r.scopes.length + braceDepth [t] := by
  cases h with
  | opens brace room => simp [braceDepth_opensBrace brace]
  | closes brace open_ =>
      simp only [braceDepth_closesBrace brace, open_, List.length_cons]
      omega
  | passes ho hc hidden => simp [braceDepth_other ho hc]
  | ends semicolon visible =>
      have hdepth := braceDepth_other (Token.not_isMark semicolon (by decide))
        (Token.not_isMark semicolon (by decide))
      simp [hdepth, endStatement]
  | labels colon visible label =>
      have hdepth := braceDepth_other (Token.not_isMark colon (by decide))
        (Token.not_isMark colon (by decide))
      rcases (endLabel?_scopes label).2 with h | ⟨access, h⟩ <;> simp [hdepth, h]
  | continues ho hc visible notEnd notLabel => simp [braceDepth_other ho hc, push]

theorem Step.length_scopes_le (h : Step limit r t s found) (hr : r.scopes.length ≤ limit) :
    s.scopes.length ≤ limit := by
  have hlength := h.length_scopes
  cases h with
  | opens brace room => exact room
  | closes brace open_ =>
      rw [braceDepth_closesBrace brace] at hlength
      omega
  | passes ho hc hidden => exact hr
  | ends semicolon visible => exact hr
  | labels colon visible label =>
      rcases (endLabel?_scopes label).2 with h | ⟨access, h⟩ <;> simpa [h] using hr
  | continues ho hc visible notEnd notLabel => exact hr

theorem run_length_scopes (h : r.run limit ts = .ok (s, found)) :
    (s.scopes.length : Int) = r.scopes.length + braceDepth ts := by
  induction ts generalizing r found with
  | nil =>
      cases h
      simp
  | cons t ts ih =>
      obtain ⟨m, first, later, hstep, hrun, rfl⟩ := run_cons_eq_ok_iff.mp h
      have hfirst := hstep.length_scopes
      have hlater := ih hrun
      rw [braceDepth_cons]
      omega

theorem run_length_scopes_le (h : r.run limit ts = .ok (s, found)) (hr : r.scopes.length ≤ limit) :
    s.scopes.length ≤ limit := by
  induction ts generalizing r found with
  | nil =>
      cases h
      exact hr
  | cons t ts ih =>
      obtain ⟨m, first, later, hstep, hrun, rfl⟩ := run_cons_eq_ok_iff.mp h
      exact ih hrun (hstep.length_scopes_le hr)

/-- Tokens are read to their end if the braces never close more scopes than are open, and never open more
than the limit allows. -/
theorem run_of_depth (h : ∀ j ≤ ts.length, 0 ≤ r.scopes.length + braceDepth (ts.take j) ∧
    r.scopes.length + braceDepth (ts.take j) ≤ limit) :
    ∃ s found, r.run limit ts = .ok (s, found) := by
  rcases run_cases limit r ts with hrun | ⟨before, t, rest, s, found, e, rfl, hrun, he⟩
  · exact hrun
  have hlength := run_length_scopes hrun
  have hnext := h (before.length + 1) (by simp)
  rw [List.take_append, List.take_of_length_le (by omega), braceDepth_append] at hnext
  simp only [Nat.add_sub_cancel_left, List.take_succ_cons, List.take_zero] at hnext
  rcases step_eq_error_iff.mp he with ⟨brace, full, -⟩ | ⟨brace, empty, -⟩
  · rw [braceDepth_opensBrace brace] at hnext
    omega
  · rw [braceDepth_closesBrace brace] at hnext
    rw [empty, List.length_nil] at hlength
    omega

theorem run_depthWithin (h : run limit {} ts = .ok (s, found)) : DepthWithin limit ts ts.length := by
  intro j _
  rw [← List.take_append_drop j ts] at h
  obtain ⟨m, first, later, hfirst, -, -⟩ := run_append_eq_ok h
  have hlength := run_length_scopes hfirst
  have hle := run_length_scopes_le hfirst (Nat.zero_le _)
  simp only [List.length_nil, Int.natCast_zero, Int.zero_add] at hlength
  omega

/-! ## Where a text is refused -/

/-- The two ways in which reading ends: at the end of the tokens, with the depth within its bounds all
along, or at the first token where the depth leaves them. -/
theorem extractFrom_failed_cases (limit : Nat) (ts : List Token) :
    ((extractFrom limit {} ts).failed = none ∧ DepthWithin limit ts ts.length) ∨
      ∃ i, ∃ h : i < ts.length, DepthWithin limit ts i ∧
        (((extractFrom limit {} ts).failed = some (.nestingTooDeep ts[i].place limit) ∧
            braceDepth (ts.take (i + 1)) = limit + 1) ∨
          ((extractFrom limit {} ts).failed = some (.unbalancedBrace ts[i].place) ∧
            braceDepth (ts.take (i + 1)) = -1)) := by
  rcases run_cases limit {} ts with ⟨s, found, h⟩ | ⟨before, t, rest, s, found, e, rfl, h, he⟩
  · exact .inl ⟨by rw [extractFrom_of_run h], run_depthWithin h⟩
  refine .inr ⟨before.length, by simp, ?_, ?_⟩
  · intro j hj
    rw [List.take_append_of_le_length hj]
    exact run_depthWithin h j hj
  -- Just before the refused brace as many scopes are open as the depth says.
  have hlength := run_length_scopes h
  have hbefore := run_depthWithin h before.length (Nat.le_refl _)
  simp only [List.length_nil, Int.natCast_zero, Int.zero_add, List.take_length] at hlength hbefore
  have htake : (before ++ t :: rest).take (before.length + 1) = before ++ [t] := by
    rw [List.take_append, List.take_of_length_le (by omega)]
    simp
  simp only [extractFrom_of_error h he, htake, braceDepth_append, Option.some.injEq,
    List.getElem_append_right (Nat.le_refl _), Nat.sub_self, List.getElem_cons_zero]
  rcases step_eq_error_iff.mp he with ⟨brace, full, rfl⟩ | ⟨brace, empty, rfl⟩
  · rw [braceDepth_opensBrace brace]
    exact .inl ⟨rfl, by omega⟩
  · rw [braceDepth_closesBrace brace]
    simp only [empty, List.length_nil] at hlength
    exact .inr ⟨rfl, by omega⟩

variable {i : Nat}

theorem failed_unbalancedBrace_iff (hts : InOrder ts) (hi : i < ts.length) :
    (extractFrom limit {} ts).failed = some (.unbalancedBrace ts[i].place) ↔
      DepthWithin limit ts i ∧ braceDepth (ts.take (i + 1)) < 0 := by
  rcases extractFrom_failed_cases limit ts with ⟨hnone, hall⟩ | ⟨k, hk, hwithin, hcase⟩
  · have hdepth := hall (i + 1) hi
    simp only [hnone, reduceCtorEq, false_iff, not_and]
    omega
  constructor
  · intro h
    rcases hcase with ⟨hfailed, -⟩ | ⟨hfailed, hdepth⟩
    · simp [hfailed] at h
    · simp only [hfailed, Option.some.injEq, ExtractError.unbalancedBrace.injEq] at h
      obtain rfl := hts.index_unique hk hi h
      exact ⟨hwithin, by omega⟩
  · rintro ⟨hi', hneg⟩
    obtain rfl := hi'.index_unique hwithin (by omega) (by omega)
    rcases hcase with ⟨-, hdepth⟩ | ⟨hfailed, -⟩
    · omega
    · exact hfailed

theorem failed_nestingTooDeep_iff (hts : InOrder ts) (hi : i < ts.length) :
    (extractFrom limit {} ts).failed = some (.nestingTooDeep ts[i].place limit) ↔
      DepthWithin limit ts i ∧ braceDepth (ts.take (i + 1)) = limit + 1 := by
  rcases extractFrom_failed_cases limit ts with ⟨hnone, hall⟩ | ⟨k, hk, hwithin, hcase⟩
  · have hdepth := hall (i + 1) hi
    simp only [hnone, reduceCtorEq, false_iff, not_and]
    omega
  constructor
  · intro h
    rcases hcase with ⟨hfailed, hdepth⟩ | ⟨hfailed, -⟩
    · simp only [hfailed, Option.some.injEq, ExtractError.nestingTooDeep.injEq, and_true] at h
      obtain rfl := hts.index_unique hk hi h
      exact ⟨hwithin, hdepth⟩
    · simp [hfailed] at h
  · rintro ⟨hi', hdeep⟩
    obtain rfl := hi'.index_unique hwithin (by omega) (by omega)
    rcases hcase with ⟨hfailed, -⟩ | ⟨-, hdepth⟩
    · exact hfailed
    · omega

theorem failed_eq_none_iff :
    (extractFrom limit {} ts).failed = none ↔ DepthWithin limit ts ts.length := by
  rcases extractFrom_failed_cases limit ts with ⟨hnone, hall⟩ | ⟨k, hk, -, hcase⟩
  · exact ⟨fun _ => hall, fun _ => hnone⟩
  constructor
  · intro h
    rcases hcase with ⟨hfailed, -⟩ | ⟨hfailed, -⟩ <;> simp [hfailed] at h
  · intro hall
    have hdepth := hall (k + 1) hk
    rcases hcase with ⟨-, h⟩ | ⟨-, h⟩ <;> omega

theorem failed_eq_some {e : ExtractError} (h : (extractFrom limit r ts).failed = some e) :
    ∃ i, ∃ h : i < ts.length,
      e = .unbalancedBrace ts[i].place ∨ e = .nestingTooDeep ts[i].place limit := by
  rcases run_cases limit r ts with ⟨s, found, hrun⟩ | ⟨before, t, rest, s, found, e', rfl, hrun, he⟩
  · simp [extractFrom_of_run hrun] at h
  · rw [extractFrom_of_error hrun he, Option.some.injEq] at h
    subst h
    refine ⟨before.length, by simp, ?_⟩
    rw [List.getElem_append_right (Nat.le_refl _)]
    rcases step_eq_error_iff.mp he with ⟨-, -, rfl⟩ | ⟨-, -, rfl⟩ <;> simp

/-- What is refused depends on how many scopes are open, not on what they are nor on the statement. -/
theorem failed_eq_of_length_eq (h : r.scopes.length = s.scopes.length) (ts : List Token) :
    (extractFrom limit r ts).failed = (extractFrom limit s ts).failed := by
  induction ts generalizing r s with
  | nil => rfl
  | cons t ts ih =>
      have herror : ∀ e, r.step limit t = .error e ↔ s.step limit t = .error e := fun e => by
        simp only [step_eq_error_iff, ← List.length_eq_zero_iff, h]
      cases hr : r.step limit t with
      | error e => simp [extractFrom, hr, (herror e).mp hr]
      | ok p =>
          cases hs : s.step limit t with
          | error e => simp [(herror e).mpr hs] at hr
          | ok q =>
              have hp := (Step.of_step_eq hr).length_scopes
              have hq := (Step.of_step_eq hs).length_scopes
              simp only [extractFrom, hr, hs]
              exact ih (by omega)

end Reading

/-- A text is refused at the first closing brace that makes the depth negative, or at the first opening
brace that brings it beyond the limit, whichever is first, and is accepted if there is none. The error is
the last item that a search yields, and the only error among them. It hangs on the number of open scopes,
not on what was made of the statements before. -/
theorem extract_failed_iff (text : String) (limit : Nat) :
    (∀ i, ∀ h : i < (tokens text).length,
      ((extract text limit).failed = some (.unbalancedBrace (tokens text)[i].place) ↔
        DepthWithin limit (tokens text) i ∧ braceDepth ((tokens text).take (i + 1)) < 0)) ∧
    (∀ i, ∀ h : i < (tokens text).length,
      ((extract text limit).failed = some (.nestingTooDeep (tokens text)[i].place limit) ↔
        DepthWithin limit (tokens text) i ∧
          braceDepth ((tokens text).take (i + 1)) = limit + 1)) ∧
    ((extract text limit).failed = none ↔ DepthWithin limit (tokens text) (tokens text).length) ∧
    (∀ e, (extract text limit).failed = some e → ∃ i, ∃ h : i < (tokens text).length,
      e = .unbalancedBrace (tokens text)[i].place ∨
        e = .nestingTooDeep (tokens text)[i].place limit) ∧
    (∀ items, (Search.start text).Yields limit items ↔
      items = (extract text limit).found.map .ok ++
        (extract text limit).failed.toList.map .error) ∧
    (∀ r s : Reading, r.scopes.length = s.scopes.length → ∀ ts : List Token,
      (extractFrom limit r ts).failed = (extractFrom limit s ts).failed) := by
  have hts := tokens_inOrder text
  refine ⟨fun i h => Reading.failed_unbalancedBrace_iff hts h,
    fun i h => Reading.failed_nestingTooDeep_iff hts h, Reading.failed_eq_none_iff,
    fun e h => Reading.failed_eq_some h, fun items => Search.yields_start_iff,
    fun r s h ts => Reading.failed_eq_of_length_eq h ts⟩

end NameLint.Declaration
