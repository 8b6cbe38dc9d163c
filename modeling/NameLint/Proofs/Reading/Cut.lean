import NameLint.Proofs.Reading.Items
import NameLint.Proofs.Source.Cut

/-!
# What is found in a text that is cut

A token that is neither a brace nor a semicolon makes no name known and is never refused. So the one token
that a cut can change finds nothing, and all that is found in front of a cut is found in the whole text.
-/

namespace NameLint.Declaration

open NameLint.Source

namespace Reading

variable {limit : Nat} {r s : Reading} {t : Token} {ts us : List Token} {found : List Occurrence}

theorem Step.of_isQuiet (h : t.isQuiet = true) : ∃ s, Step limit r t s [] := by
  simp only [Token.isQuiet, Bool.and_eq_true, Bool.not_eq_true'] at h
  obtain ⟨⟨ho, hc⟩, hend⟩ := h
  obtain ⟨s, found, hstep⟩ : ∃ s found, r.step limit t = .ok (s, found) := step_other ho hc
  have h := Step.of_step_eq hstep
  cases h with
  | opens brace room => simp [ho] at brace
  | closes brace open_ => simp [hc] at brace
  | ends semicolon visible => simp [hend] at semicolon
  | passes ho hc hidden => exact ⟨_, .passes ho hc hidden⟩
  | labels colon visible label => exact ⟨_, .labels colon visible label⟩
  | continues ho hc visible notEnd notLabel => exact ⟨_, .continues ho hc visible notEnd notLabel⟩

theorem run_of_isQuiet (limit : Nat) (r : Reading) (h : ts.all (·.isQuiet) = true) :
    ∃ s, r.run limit ts = .ok (s, []) := by
  induction ts generalizing r with
  | nil => exact ⟨r, rfl⟩
  | cons t ts ih =>
      simp only [List.all_cons, Bool.and_eq_true] at h
      obtain ⟨m, hstep⟩ : ∃ m, Step limit r t m [] := Step.of_isQuiet h.1
      obtain ⟨s, hrun⟩ := ih m h.2
      exact ⟨s, hstep.run_cons hrun⟩

/-- Tokens without a meaning of their own join the statement. -/
theorem run_joins (limit : Nat) (visible : r.scopes.isHidden = false)
    (h : ∀ t ∈ ts, t.isQuiet = true ∧ t.isMark ":" = false) :
    r.run limit ts = .ok (⟨r.scopes, r.statement ++ ts⟩, []) := by
  induction ts generalizing r with
  | nil => simp
  | cons t ts ih =>
      obtain ⟨⟨hquiet, hcolon⟩, hts⟩ := List.forall_mem_cons.mp h
      simp only [Token.isQuiet, Bool.and_eq_true, Bool.not_eq_true'] at hquiet
      have hstep : Step limit r t (r.push t) [] :=
        .continues hquiet.1.1 hquiet.1.2 visible hquiet.2 fun colon => by simp [hcolon] at colon
      have hrest := hstep.run_cons (ih (r := r.push t) visible hts)
      simpa [push] using hrest

/-- What is extracted in front of a cut is found in the whole, and is all of it if it ends in an error. -/
theorem extractFrom_of_agreeUpToCut (limit : Nat) (r : Reading) (h : AgreeUpToCut ts us) :
    (∃ more, (extractFrom limit r us).found = (extractFrom limit r ts).found ++ more) ∧
      ((extractFrom limit r ts).failed ≠ none → extractFrom limit r us = extractFrom limit r ts) := by
  obtain ⟨before, last, later, rfl, rfl, hquiet⟩ := h
  rcases run_cases limit r before with ⟨s, found, hrun⟩ | ⟨first, t, rest, s, found, e, rfl, hrun, he⟩
  · obtain ⟨u, hlast⟩ := run_of_isQuiet limit s hquiet
    have hts := extractFrom_of_run (run_append hrun hlast)
    rw [List.append_nil] at hts
    rw [hts, extractFrom_append hrun]
    exact ⟨⟨_, rfl⟩, fun hfailed => absurd rfl hfailed⟩
  · simp only [List.append_assoc, List.cons_append, extractFrom_of_error hrun he]
    exact ⟨⟨[], by simp⟩, fun _ => trivial⟩

end Reading

/-- What a search in a text yields is what the search in the text with more behind it yields first, and all
of it if it ends in an error: wherever a text is cut, nothing new is found in front of the cut. -/
theorem extract_append (text more : String) (limit : Nat) :
    (∀ items, (Search.start text).Yields limit items →
      ∃ later, (Search.start (text ++ more)).Yields limit (items ++ later)) ∧
    ((extract text limit).found <+: (extract (text ++ more) limit).found) ∧
    (∀ e, (extract text limit).failed = some e →
      extract (text ++ more) limit = extract text limit) := by
  obtain ⟨⟨later, hfound⟩, hfailed⟩ :
      (∃ later, (extract (text ++ more) limit).found = (extract text limit).found ++ later) ∧
        ((extract text limit).failed ≠ none → extract (text ++ more) limit = extract text limit) :=
    Reading.extractFrom_of_agreeUpToCut limit {} (tokens_more text more)
  refine ⟨fun items hitems => ?_, ⟨later, hfound.symm⟩, fun e he => hfailed (by simp [he])⟩
  rw [Search.yields_start_iff] at hitems
  simp only [Search.yields_start_iff]
  cases he : (extract text limit).failed with
  | some e =>
      have hsame := hfailed (by simp [he])
      exact ⟨[], by rw [hsame, List.append_nil, hitems]⟩
  | none =>
      refine ⟨later.map .ok ++ (extract (text ++ more) limit).failed.toList.map .error, ?_⟩
      simp [hitems, Extraction.items, he, hfound]

theorem extract_append_after_error :
    (extract "int x; \x7d").failed = some (.unbalancedBrace ⟨1, 8⟩) ∧
      extract ("int x; \x7d" ++ " int y;") = extract "int x; \x7d" := by
  have hfailed : (extract "int x; \x7d").failed = some (.unbalancedBrace ⟨1, 8⟩) := by
    decide +kernel
  exact ⟨hfailed, (extract_append _ _ _).2.2 _ hfailed⟩

end NameLint.Declaration
