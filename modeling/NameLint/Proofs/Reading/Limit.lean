import NameLint.Proofs.Reading.Depth

/-!
# Reading under a larger limit

The limit on the nesting of braces says where reading ends and nothing else: what it allows is allowed by a
larger one and makes the same names known. So under a larger limit the same is found, and more behind it
where the smaller one refused a brace.
-/

namespace NameLint.Declaration

open NameLint.Source

namespace Reading

variable {limit more : Nat} {r s : Reading} {t : Token} {ts : List Token} {found : List Occurrence}

/-- Only a brace that opens a scope asks for the limit. -/
theorem Step.mono (hle : limit ≤ more) (h : Step limit r t s found) : Step more r t s found := by
  cases h with
  | opens brace room => exact .opens brace (Nat.lt_of_lt_of_le room hle)
  | closes brace open_ => exact .closes brace open_
  | passes notOpening notClosing hidden => exact .passes notOpening notClosing hidden
  | ends semicolon visible => exact .ends semicolon visible
  | labels colon visible label => exact .labels colon visible label
  | continues notOpening notClosing visible notEnd notLabel =>
      exact .continues notOpening notClosing visible notEnd notLabel

theorem run_mono (hle : limit ≤ more) (h : r.run limit ts = .ok (s, found)) :
    r.run more ts = .ok (s, found) := by
  induction ts generalizing r found with
  | nil => exact h
  | cons t ts ih =>
      obtain ⟨m, first, later, hstep, hrun, rfl⟩ := run_cons_eq_ok_iff.mp h
      exact (hstep.mono hle).run_cons (ih hrun)

/-- Under a larger limit reading ends as it did, or it goes on at a brace that was one too many. -/
theorem extractFrom_more_cases (hle : limit ≤ more) (r : Reading) (ts : List Token) :
    extractFrom more r ts = extractFrom limit r ts ∨
      ∃ before t rest s found, ts = before ++ t :: rest ∧
        extractFrom limit r ts = ⟨found, some (.nestingTooDeep t.place limit)⟩ ∧
        extractFrom more r ts = after found (extractFrom more s (t :: rest)) := by
  rcases run_cases limit r ts with ⟨s, found, hrun⟩ | ⟨before, t, rest, s, found, e, rfl, hrun, he⟩
  · rw [extractFrom_of_run hrun, extractFrom_of_run (run_mono hle hrun)]
    exact .inl rfl
  have hmore := run_mono hle hrun
  rcases step_eq_error_iff.mp he with ⟨brace, full, rfl⟩ | ⟨brace, empty, rfl⟩
  · exact .inr ⟨before, t, rest, s, found, rfl, extractFrom_of_error hrun he, extractFrom_append hmore⟩
  · -- A brace that closes nothing is refused under every limit.
    have he' : s.step more t = .error (.unbalancedBrace t.place) :=
      step_eq_error_iff.mpr (.inr ⟨brace, empty, rfl⟩)
    rw [extractFrom_of_error hrun he, extractFrom_of_error hmore he']
    exact .inl rfl

theorem found_prefix (hle : limit ≤ more) (r : Reading) (ts : List Token) :
    (extractFrom limit r ts).found <+: (extractFrom more r ts).found := by
  rcases extractFrom_more_cases hle r ts with hsame | ⟨before, t, rest, s, found, -, hlimit, hmore⟩
  · exact hsame ▸ List.prefix_rfl
  · rw [hlimit, hmore]
    exact List.prefix_append ..

theorem extractFrom_mono (hle : limit ≤ more)
    (h : ∀ place, (extractFrom limit r ts).failed ≠ some (.nestingTooDeep place limit)) :
    extractFrom more r ts = extractFrom limit r ts := by
  rcases extractFrom_more_cases hle r ts with hsame | ⟨before, t, rest, s, found, -, hlimit, -⟩
  · exact hsame
  · exact absurd (congrArg Extraction.failed hlimit) (h t.place)

/-- A brace nested too deep under a larger limit comes at the one that the smaller limit refuses, or behind
it. -/
theorem exists_nestingTooDeep {place : Position} {bound : Nat} (hle : limit ≤ more)
    (h : (extractFrom more r ts).failed = some (.nestingTooDeep place bound)) :
    ∃ i j, ∃ _ : i ≤ j, ∃ _ : j < ts.length, place = ts[j].place ∧
      (extractFrom limit r ts).failed = some (.nestingTooDeep ts[i].place limit) := by
  rcases extractFrom_more_cases hle r ts with hsame | ⟨before, t, rest, s, found, rfl, hlimit, hmore⟩
  · rw [hsame] at h
    obtain ⟨i, hi, hat | hat⟩ := failed_eq_some h
    · cases hat
    · cases hat
      exact ⟨i, i, Nat.le_refl i, hi, rfl, h⟩
  · rw [hmore] at h
    obtain ⟨k, hk, hat | hat⟩ : ∃ k, ∃ _ : k < (t :: rest).length, _ := failed_eq_some h
    · cases hat
    · cases hat
      refine ⟨before.length, before.length + k, Nat.le_add_right .., by simpa using hk, ?_, ?_⟩
      · simp [List.getElem_append_right]
      · simp [hlimit]

end Reading

/-- Under a larger limit all is found that was found, in the same order and in front of what is found in
addition. What did not end at a brace nested too deep is the same under the larger limit, and what does end at
one there ends at the same token or at one before it under the smaller limit. -/
theorem extract_limit_mono (text : String) {limit more : Nat} (hle : limit ≤ more) :
    ((extract text limit).found <+: (extract text more).found) ∧
    ((∀ place, (extract text limit).failed ≠ some (.nestingTooDeep place limit)) →
      extract text more = extract text limit) ∧
    (∀ place bound, (extract text more).failed = some (.nestingTooDeep place bound) →
      ∃ i j, ∃ _ : i ≤ j, ∃ _ : j < (tokens text).length, place = (tokens text)[j].place ∧
        (extract text limit).failed = some (.nestingTooDeep (tokens text)[i].place limit)) :=
  ⟨Reading.found_prefix hle {} (tokens text), Reading.extractFrom_mono hle,
    fun _ _ => Reading.exists_nestingTooDeep hle⟩

/-- A namespace in a namespace, with a variable in each. -/
def nestedNamespaces : String := "namespace a \x7b int x; namespace b \x7b int y; \x7d \x7d"

theorem extract_limit_mono_nested :
    (0 ≤ 1 ∧ (extract nestedNamespaces 1).failed = some (.nestingTooDeep ⟨1, 34⟩ 1) ∧
        ∃ i j, ∃ _ : i ≤ j, ∃ _ : j < (tokens nestedNamespaces).length,
          ⟨1, 34⟩ = (tokens nestedNamespaces)[j].place ∧
          (extract nestedNamespaces 0).failed =
            some (.nestingTooDeep (tokens nestedNamespaces)[i].place 0)) ∧
      2 ≤ 3 ∧ (∀ place, (extract nestedNamespaces 2).failed ≠ some (.nestingTooDeep place 2)) ∧
        extract nestedNamespaces 3 = extract nestedNamespaces 2 := by
  have hdeep : (extract nestedNamespaces 1).failed = some (.nestingTooDeep ⟨1, 34⟩ 1) := by
    decide +kernel
  have hnone : (extract nestedNamespaces 2).failed = none := by decide +kernel
  have hfailed : ∀ place, (extract nestedNamespaces 2).failed ≠ some (.nestingTooDeep place 2) := by
    simp [hnone]
  exact ⟨⟨by decide, hdeep, (extract_limit_mono _ (by decide)).2.2 _ _ hdeep⟩,
    by decide, hfailed, (extract_limit_mono _ (by decide)).2.1 hfailed⟩

end NameLint.Declaration
