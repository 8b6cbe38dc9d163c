import NameLint.Proofs.Reading.Run
import NameLint.Proofs.Statement.Names

/-!
# Which names a token makes known

The names that a token makes known are names of the statement at hand, in the order they have there.
-/

namespace NameLint.Declaration

open NameLint.Source

/-- `found` are the occurrences of some tokens: they have their texts and places. -/
def OccurrencesOf (names : List Token) (found : List Occurrence) : Prop :=
  found.map (fun o => (o.name, o.place)) = names.map fun n => (n.text, n.place)

theorem OccurrencesOf.places {names : List Token} {found : List Occurrence}
    (h : OccurrencesOf names found) : found.map (·.place) = names.map (·.place) := by
  simpa [Function.comp_def] using congrArg (List.map Prod.snd) h

theorem OccurrencesOf.exists_name {names : List Token} {found : List Occurrence} {o : Occurrence}
    (h : OccurrencesOf names found) (ho : o ∈ found) : ∃ n ∈ names, n.place = o.place := by
  have hplace : o.place ∈ names.map (·.place) := h.places ▸ List.mem_map_of_mem ho
  exact List.mem_map.mp hplace

namespace Reading

variable {limit : Nat} {r s : Reading} {t : Token} {found : List Occurrence}

theorem openedName?_eq_some {o : Occurrence} (h : r.openedName? = some o) :
    ∃ n ∈ r.statement, n.isName = true ∧ o.name = n.text ∧ o.place = n.place := by
  obtain ⟨context, n, hn, rfl⟩ : ∃ context n, r.opening.name? = some n ∧
      o = .ofToken context n := by
    unfold openedName? at h
    cases hopening : r.opening <;> simp only [hopening] at h
    case record kind name =>
      obtain ⟨context, -, h⟩ := Option.bind_eq_some_iff.mp h
      obtain ⟨n, hn, rfl⟩ := Option.map_eq_some_iff.mp h
      exact ⟨context, n, hn, rfl⟩
    case enumeration name =>
      obtain ⟨n, hn, rfl⟩ := Option.map_eq_some_iff.mp h
      exact ⟨_, n, hn, rfl⟩
    case function name =>
      obtain ⟨context, -, h⟩ := Option.bind_eq_some_iff.mp h
      obtain ⟨n, hn, rfl⟩ := Option.map_eq_some_iff.mp h
      exact ⟨context, n, hn, rfl⟩
    all_goals cases h
  unfold opening at hn
  split at hn
  · cases hn
  · obtain ⟨hmem, hisName⟩ := classifyOpen_name hn
    exact ⟨n, hmem, hisName, rfl, rfl⟩

theorem occurrencesOf_filterMap (site : Site) (ds : List Declarator) :
    ∃ names, names.Sublist (ds.map (·.name)) ∧ OccurrencesOf names (ds.filterMap fun d =>
      (site.context? d.entity).map fun context => Occurrence.ofToken context d.name) := by
  induction ds with
  | nil => exact ⟨[], .refl _, rfl⟩
  | cons d ds ih =>
      obtain ⟨names, hsub, hfound⟩ := ih
      cases hcontext : site.context? d.entity with
      | none =>
          rw [List.filterMap_cons_none (by simp [hcontext])]
          exact ⟨names, .cons _ hsub, hfound⟩
      | some context =>
          rw [List.filterMap_cons_some (b := .ofToken context d.name) (by simp [hcontext])]
          exact ⟨d.name :: names, hsub.cons_cons _, congrArg ((d.name.text, d.name.place) :: ·) hfound⟩

/-- A token makes names of the statement at hand known, each once and in their order. -/
theorem Step.names (h : Step limit r t s found) :
    ∃ names, names.Sublist r.statement ∧ (∀ n ∈ names, n.isName = true) ∧
      OccurrencesOf names found := by
  cases h with
  | opens brace room =>
      cases ho : r.openedName? with
      | none => exact ⟨[], List.nil_sublist _, by simp, rfl⟩
      | some o =>
          obtain ⟨n, hn, hisName, hname, hplace⟩ := openedName?_eq_some ho
          exact ⟨[n], List.singleton_sublist.mpr hn, by simpa using hisName,
            by simp [OccurrencesOf, hname, hplace]⟩
  | ends semicolon visible =>
      obtain ⟨hsub, hisName⟩ := classifyStatement_names r.statement r.scopes.site
      obtain ⟨names, hnames, hfound⟩ :=
        occurrencesOf_filterMap r.scopes.site (classifyStatement r.statement r.scopes.site)
      refine ⟨names, hnames.trans hsub, fun n hn => ?_, hfound⟩
      obtain ⟨d, hd, rfl⟩ := List.mem_map.mp (hnames.mem hn)
      exact hisName d hd
  | closes brace open_ => exact ⟨[], List.nil_sublist _, by simp, rfl⟩
  | passes ho hc hidden => exact ⟨[], List.nil_sublist _, by simp, rfl⟩
  | labels colon visible label => exact ⟨[], List.nil_sublist _, by simp, rfl⟩
  | continues ho hc visible notEnd notLabel => exact ⟨[], List.nil_sublist _, by simp, rfl⟩

end Reading

end NameLint.Declaration
