import NameLint.Proofs.Reading.Step

/-!
# Runs over several tokens

`run` reads a list of tokens to its end, or up to the first brace that is refused. What is extracted from
a list is what a run over its beginning makes known, followed by what is extracted from the rest.
-/

namespace NameLint.Declaration

open NameLint.Source

namespace Reading

/-- Reads some tokens: the reading after them and the names they make known. -/
def run (limit : Nat) (r : Reading) : List Token → Except ExtractError (Reading × List Occurrence)
  | [] => .ok (r, [])
  | t :: rest =>
    match r.step limit t with
    | .error e => .error e
    | .ok (s, found) => (run limit s rest).map fun (last, later) => (last, found ++ later)

variable {limit : Nat} {r s u : Reading} {t : Token} {ts us : List Token}
  {found later : List Occurrence} {e : ExtractError}

@[simp] theorem run_nil : r.run limit [] = .ok (r, []) := rfl

theorem run_cons_eq_ok_iff :
    r.run limit (t :: ts) = .ok (u, found) ↔
      ∃ s first later, Step limit r t s first ∧ s.run limit ts = .ok (u, later) ∧
        found = first ++ later := by
  simp only [run, ← step_eq_ok_iff]
  cases r.step limit t with
  | error e => simp
  | ok p =>
      obtain ⟨m, first⟩ := p
      simp only [Except.ok.injEq, Prod.mk.injEq]
      constructor
      · intro h
        cases hrun : m.run limit ts with
        | error e => simp [hrun, Except.map] at h
        | ok q =>
            simp only [hrun, Except.map, Except.ok.injEq, Prod.mk.injEq] at h
            obtain ⟨rfl, rfl⟩ := h
            exact ⟨m, first, q.2, ⟨rfl, rfl⟩, hrun, rfl⟩
      · rintro ⟨_, _, later, ⟨rfl, rfl⟩, hrun, rfl⟩
        simp [hrun, Except.map]

theorem Step.run_cons (h : Step limit r t s found) (hrun : s.run limit ts = .ok (u, later)) :
    r.run limit (t :: ts) = .ok (u, found ++ later) :=
  run_cons_eq_ok_iff.mpr ⟨s, found, later, h, hrun, rfl⟩

theorem Step.run_singleton (h : Step limit r t s found) : r.run limit [t] = .ok (s, found) := by
  have hnil : s.run limit [] = .ok (s, []) := rfl
  simpa using h.run_cons hnil

theorem run_append (h : r.run limit ts = .ok (s, found)) (h' : s.run limit us = .ok (u, later)) :
    r.run limit (ts ++ us) = .ok (u, found ++ later) := by
  induction ts generalizing r found with
  | nil =>
      cases h
      exact h'
  | cons t ts ih =>
      obtain ⟨m, first, second, hstep, hrun, rfl⟩ := run_cons_eq_ok_iff.mp h
      rw [List.append_assoc]
      exact hstep.run_cons (ih hrun)

theorem run_append_eq_ok (h : r.run limit (ts ++ us) = .ok (u, found)) :
    ∃ s first later, r.run limit ts = .ok (s, first) ∧ s.run limit us = .ok (u, later) ∧
      found = first ++ later := by
  induction ts generalizing r found with
  | nil => exact ⟨r, [], found, rfl, h, rfl⟩
  | cons t ts ih =>
      obtain ⟨m, first, second, hstep, hrun, rfl⟩ := run_cons_eq_ok_iff.mp h
      obtain ⟨s, third, later, hs, hu, rfl⟩ := ih hrun
      exact ⟨s, first ++ third, later, hstep.run_cons hs, hu, (List.append_assoc ..).symm⟩

/-! ## What is extracted -/

/-- What was found before, put in front of what is found later. -/
def after (found : List Occurrence) (x : Extraction) : Extraction := ⟨found ++ x.found, x.failed⟩

@[simp] theorem after_nil (x : Extraction) : after [] x = x := rfl

theorem Step.extractFrom_cons (h : Step limit r t s found) :
    extractFrom limit r (t :: us) = after found (extractFrom limit s us) := by
  simp only [extractFrom, h.step_eq, after]

theorem extractFrom_append (h : r.run limit ts = .ok (s, found)) :
    extractFrom limit r (ts ++ us) = after found (extractFrom limit s us) := by
  induction ts generalizing r found with
  | nil =>
      cases h
      rfl
  | cons t ts ih =>
      obtain ⟨m, first, second, hstep, hrun, rfl⟩ := run_cons_eq_ok_iff.mp h
      rw [List.cons_append, hstep.extractFrom_cons, ih hrun]
      simp only [after, List.append_assoc]

theorem extractFrom_of_run (h : r.run limit ts = .ok (s, found)) :
    extractFrom limit r ts = ⟨found, none⟩ := by
  have happ : extractFrom limit r (ts ++ []) = _ := extractFrom_append h
  simpa [after, extractFrom] using happ

theorem extractFrom_of_error (h : r.run limit ts = .ok (s, found)) (he : s.step limit t = .error e) :
    extractFrom limit r (ts ++ t :: us) = ⟨found, some e⟩ := by
  rw [extractFrom_append h]
  simp [extractFrom, he, after]

/-- Reading comes to the end of the tokens, or to one that it refuses. -/
theorem run_cases (limit : Nat) (r : Reading) (ts : List Token) :
    (∃ s found, r.run limit ts = .ok (s, found)) ∨
      ∃ before t rest s found e, ts = before ++ t :: rest ∧ r.run limit before = .ok (s, found) ∧
        s.step limit t = .error e := by
  induction ts generalizing r with
  | nil => exact .inl ⟨r, [], rfl⟩
  | cons t ts ih =>
      cases hstep : r.step limit t with
      | error e => exact .inr ⟨[], t, ts, r, [], e, rfl, rfl, hstep⟩
      | ok p =>
          obtain ⟨m, first⟩ := p
          have hm := Step.of_step_eq hstep
          rcases ih m with ⟨s, found, h⟩ | ⟨before, t', rest, s, found, e, rfl, h, he⟩
          · exact .inl ⟨s, first ++ found, hm.run_cons h⟩
          · exact .inr ⟨t :: before, t', rest, s, first ++ found, e, rfl, hm.run_cons h, he⟩

end Reading

end NameLint.Declaration
