import NameLint.FileTree.Path
import NameLint.Proofs.Sorting

/-!
# Paths put together, and their order

What a name behind a path adds to its steps and components, how the two differ, and the order of paths as one
in which any two can be compared.
-/

namespace NameLint.FileTree

/-! ## Names -/

/-- A text that can stand for one entry of a directory. -/
structure IsEntryName (name : String) : Prop where
  unslashed : '/' ∉ name.toList
  nonempty : name ≠ ""
  notHere : name ≠ "."
  notAbove : name ≠ ".."

instance (name : String) : Decidable (IsEntryName name) :=
  decidable_of_iff ('/' ∉ name.toList ∧ name ≠ "" ∧ name ≠ "." ∧ name ≠ "..")
    ⟨fun ⟨unslashed, nonempty, notHere, notAbove⟩ => ⟨unslashed, nonempty, notHere, notAbove⟩,
      fun h => ⟨h.unslashed, h.nonempty, h.notHere, h.notAbove⟩⟩

namespace Path

variable {p : Path} {name : String}

theorem splitSlashes_ne_nil (cs : List Char) : splitSlashes cs ≠ [] := by
  cases cs with
  | nil => simp [splitSlashes]
  | cons c rest =>
      unfold splitSlashes
      split
      · simp
      · split <;> simp

theorem splitSlashes_append (cs rest : List Char) :
    splitSlashes (cs ++ '/' :: rest) = splitSlashes cs ++ splitSlashes rest := by
  induction cs with
  | nil => simp [splitSlashes]
  | cons c cs ih =>
      by_cases hc : c = '/'
      · simp [splitSlashes, hc, ih]
      · cases hsplit : splitSlashes cs with
        | nil => exact absurd hsplit (splitSlashes_ne_nil cs)
        | cons part parts => simp [splitSlashes, hc, ih, hsplit]

theorem splitSlashes_of_not_mem {cs : List Char} (h : '/' ∉ cs) : splitSlashes cs = [cs] := by
  induction cs with
  | nil => rfl
  | cons c cs ih =>
      simp only [List.mem_cons, not_or] at h
      simp [splitSlashes, Ne.symm h.1, ih h.2]

/-- The parts of a path with a name behind it: those of the path, without an empty one at the end, and the
name. -/
theorem splitSlashes_join (hp : p ≠ "") (hname : IsEntryName name) :
    ∃ parts, splitSlashes (p.join name).toList = parts ++ [name.toList] ∧
      (splitSlashes p.toList = parts ∨ splitSlashes p.toList = parts ++ [[]]) := by
  have hnonempty : p.toList.isEmpty = false := by simpa using hp
  have hlast := splitSlashes_of_not_mem hname.unslashed
  by_cases hslash : p.toList.getLast? = some '/'
  · obtain ⟨cs, hcs⟩ := List.getLast?_eq_some_iff.mp hslash
    refine ⟨splitSlashes cs, ?_, .inr ?_⟩
    · simp [join, hcs, splitSlashes_append, hlast]
    · rw [hcs, splitSlashes_append]
      rfl
  · refine ⟨splitSlashes p.toList, ?_, .inl rfl⟩
    simp [join, hnonempty, hslash, splitSlashes_append, hlast]

theorem head?_join (hp : p ≠ "") (name : String) : (p.join name).toList.head? = p.toList.head? := by
  cases hcs : p.toList with
  | nil => exact absurd (String.toList_eq_nil_iff.mp hcs) hp
  | cons c cs =>
      unfold join
      rw [hcs, if_neg (by simp)]
      split <;> simp [hcs]

theorem stepOf_name (hname : IsEntryName name) : stepOf name.toList = .name name := by
  have hhere : name.toList ≠ ['.'] := fun h => hname.notHere (String.toList_injective h)
  have habove : name.toList ≠ ['.', '.'] := fun h => hname.notAbove (String.toList_injective h)
  simp [stepOf, hname.nonempty, hhere, habove]

theorem componentOf?_name (hname : IsEntryName name) : componentOf? name.toList = some (.name name) := by
  have hhere : name.toList ≠ ['.'] := fun h => hname.notHere (String.toList_injective h)
  have habove : name.toList ≠ ['.', '.'] := fun h => hname.notAbove (String.toList_injective h)
  simp [componentOf?, hname.nonempty, hhere, habove]

/-- A name behind a path is one more step; a path that ends in a slash has stayed where it is before. -/
theorem steps_join (hp : p ≠ "") (hname : IsEntryName name) :
    ∃ before, (p.join name).steps = before ++ [.name name] ∧
      (p.steps = before ∨ p.steps = before ++ [.here]) := by
  obtain ⟨parts, hjoin, hparts⟩ := splitSlashes_join hp hname
  have hhead := head?_join hp name
  refine ⟨if p.toList.head? = some '/' then .root :: parts.map stepOf else parts.map stepOf, ?_, ?_⟩
  · simp only [steps, hhead, hjoin, List.map_append, List.map_cons, List.map_nil, stepOf_name hname]
    split <;> rfl
  · rcases hparts with hparts | hparts
    · exact .inl (by simp only [steps, hparts])
    · refine .inr ?_
      simp only [steps, hparts, List.map_append]
      split <;> rfl

theorem fileName?_join (hp : p ≠ "") (hname : IsEntryName name) : (p.join name).fileName? = some name := by
  obtain ⟨parts, hjoin, -⟩ := splitSlashes_join hp hname
  have hlast : (p.join name).components.getLast? = some (.name name) := by
    simp [components, hjoin, componentOf?_name hname]
  simp [fileName?, hlast]

theorem fileName?_name (hname : IsEntryName name) : fileName? name = some name := by
  have hsplit := splitSlashes_of_not_mem hname.unslashed
  have hlast : (components name).getLast? = some (.name name) := by
    simp [components, hsplit, componentOf?_name hname]
  simp [fileName?, hlast]

/-- Whether an entry is a source file depends on its name only. -/
theorem isSource_join (hp : p ≠ "") (hname : IsEntryName name) :
    (p.join name).isSource = isSource name := by
  simp [isSource, extension?, fileName?_join hp hname, fileName?_name hname]

/-! ## Steps that stay where they are -/

/-- Steps without those that stay where they are. -/
def moving (steps : List Component) : List Component := steps.filter (· ≠ .here)

@[simp] theorem moving_nil : moving [] = [] := rfl

@[simp] theorem moving_here (steps : List Component) : moving (.here :: steps) = moving steps := rfl

theorem moving_cons {step : Component} (h : step ≠ .here) (steps : List Component) :
    moving (step :: steps) = step :: moving steps := by
  simp [moving, h]

theorem moving_append (steps rest : List Component) :
    moving (steps ++ rest) = moving steps ++ moving rest :=
  List.filter_append ..

theorem moving_parts (parts : List (List Char)) :
    moving (parts.map stepOf) = moving (parts.filterMap componentOf?) := by
  induction parts with
  | nil => rfl
  | cons part parts ih =>
      by_cases hstays : (part.isEmpty || part = ['.']) = true
      · have hpart : stepOf part = .here ∧ componentOf? part = none := by
          simp only [stepOf, componentOf?, if_pos hstays, and_self]
        rw [List.map_cons, hpart.1, moving_here, List.filterMap_cons_none hpart.2, ih]
      · obtain ⟨step, hstep, hpart⟩ :
            ∃ step, step ≠ .here ∧ stepOf part = step ∧ componentOf? part = some step := by
          by_cases habove : part = ['.', '.']
          · simp [stepOf, componentOf?, habove]
          · simp [stepOf, componentOf?, habove]
            simp_all
        rw [List.map_cons, hpart.1, List.filterMap_cons_some hpart.2, moving_cons hstep, moving_cons hstep, ih]

theorem head?_eq_slash_iff (cs : List Char) :
    cs.head? = some '/' ↔ ∃ part parts, splitSlashes cs = [] :: part :: parts := by
  cases cs with
  | nil => simp [splitSlashes]
  | cons c rest =>
      by_cases hc : c = '/'
      · subst hc
        cases hrest : splitSlashes rest with
        | nil => exact absurd hrest (splitSlashes_ne_nil rest)
        | cons part parts => simp [splitSlashes, hrest]
      · cases hrest : splitSlashes rest with
        | nil => exact absurd hrest (splitSlashes_ne_nil rest)
        | cons part parts => simp [splitSlashes, hc, hrest]

/-- The components of a path and the steps of the way along it differ in steps that stay only. -/
theorem moving_steps (p : Path) : moving p.steps = moving p.components := by
  simp only [steps, components]
  by_cases hslash : p.toList.head? = some '/'
  · obtain ⟨part, parts, hparts⟩ := (head?_eq_slash_iff p.toList).mp hslash
    rw [if_pos hslash, moving_cons (by simp), moving_parts, hparts]
    rfl
  · rw [if_neg hslash, moving_parts, moving_append]
    split
    · rename_i hparts
      exact absurd ((head?_eq_slash_iff p.toList).mpr ⟨_, _, hparts⟩) hslash
    · rfl
    · rfl
end Path

/-! ## The order of paths -/

namespace Component

variable {a b c : Component}

/-- A component of an earlier kind, or one of the same kind with the smaller text. -/
def Before (a b : Component) : Prop :=
  a.rank < b.rank ∨ a.rank = b.rank ∧ a.text < b.text

theorem isBefore_iff : a.isBefore b = true ↔ a.Before b := by
  simp [isBefore, Before]

theorem precedes : Precedes isBefore :=
  (Precedes.nat.comap rank).lex (Precedes.string.comap text) fun a b => by
    simp only [beq_iff_eq, decide_eq_false_iff_not]
    omega

/-- Components that neither comes before the other are the same. -/
theorem eq_of_not_isBefore (h : a.isBefore b = false) (h' : b.isBefore a = false) : a = b := by
  rw [Bool.eq_false_iff, ne_eq, isBefore_iff] at h h'
  simp only [Before, not_or, not_and] at h h'
  have hrank : a.rank = b.rank := by omega
  have htext : a.text = b.text := String.le_antisymm (h'.2 hrank.symm) (h.2 hrank)
  cases a <;> cases b <;> simp_all [rank, text]

end Component

namespace Path

theorem componentsBefore_asymm {as bs : List Component} (h : componentsBefore as bs = true) :
    componentsBefore bs as = false := by
  fun_induction componentsBefore as bs with
  | case1 => cases h
  | case2 => rfl
  | case3 => cases h
  | case4 a as b bs ih =>
      simp only [Bool.or_eq_true, Bool.and_eq_true, beq_iff_eq] at h
      simp only [componentsBefore, Bool.or_eq_false_iff, Bool.and_eq_false_iff, beq_eq_false_iff_ne]
      rcases h with hab | ⟨rfl, hrest⟩
      · refine ⟨Component.precedes.asymm hab, .inl ?_⟩
        rintro rfl
        simp [Component.precedes.asymm hab] at hab
      · exact ⟨by simp [Component.isBefore], .inr (ih hrest)⟩

theorem componentsBefore_or {as cs : List Component} (h : componentsBefore as cs = true)
    (bs : List Component) : componentsBefore as bs = true ∨ componentsBefore bs cs = true := by
  fun_induction componentsBefore as cs generalizing bs with
  | case1 => cases h
  | case2 c cs =>
      cases bs with
      | nil => exact .inr rfl
      | cons b bs => exact .inl rfl
  | case3 => cases h
  | case4 a as c cs ih =>
      cases bs with
      | nil => exact .inr rfl
      | cons b bs =>
          simp only [Bool.or_eq_true, Bool.and_eq_true, beq_iff_eq] at h
          simp only [componentsBefore, Bool.or_eq_true, Bool.and_eq_true, beq_iff_eq]
          rcases h with hac | ⟨rfl, hrest⟩
          · rcases Component.precedes.through hac b with hab | hbc
            · exact .inl (.inl hab)
            · exact .inr (.inl hbc)
          · by_cases hab : a.isBefore b = true
            · exact .inl (.inl hab)
            by_cases hba : b.isBefore a = true
            · exact .inr (.inl hba)
            obtain rfl := Component.eq_of_not_isBefore (Bool.eq_false_iff.mpr hab) (Bool.eq_false_iff.mpr hba)
            rcases ih hrest bs with hleft | hright
            · exact .inl (.inr ⟨rfl, hleft⟩)
            · exact .inr (.inr ⟨rfl, hright⟩)

/-- Components of which neither come before the others are the same. -/
theorem eq_of_not_componentsBefore {as bs : List Component} (h : componentsBefore as bs = false)
    (h' : componentsBefore bs as = false) : as = bs := by
  fun_induction componentsBefore as bs with
  | case1 => rfl
  | case2 => cases h
  | case3 => simp [componentsBefore] at h'
  | case4 a as b bs ih =>
      simp only [componentsBefore, Bool.or_eq_false_iff, Bool.and_eq_false_iff] at h h'
      obtain rfl := Component.eq_of_not_isBefore h.1 h'.1
      rw [ih (h.2.resolve_left (by simp)) (h'.2.resolve_left (by simp))]

/-- The components come before the others at the first place where they differ, or end before it. -/
theorem componentsBefore_iff (as bs : List Component) :
    componentsBefore as bs = true ↔ List.Lex Component.Before as bs := by
  fun_induction componentsBefore as bs with
  | case1 => exact iff_of_false (by simp) (nomatch ·)
  | case2 => exact iff_of_true rfl .nil
  | case3 => exact iff_of_false (by simp) (nomatch ·)
  | case4 a as b bs ih =>
      rw [Bool.or_eq_true, Bool.and_eq_true, beq_iff_eq, Component.isBefore_iff, ih]
      constructor
      · rintro (hab | ⟨rfl, hrest⟩)
        · exact .rel hab
        · exact .cons hrest
      · intro h
        cases h with
        | rel hab => exact .inl hab
        | cons hrest => exact .inr ⟨rfl, hrest⟩

/-- A path whose components come before those of another. -/
def Before (p q : Path) : Prop :=
  List.Lex Component.Before p.components q.components

theorem isBefore_iff (p q : Path) : p.isBefore q = true ↔ p.Before q :=
  componentsBefore_iff p.components q.components

theorem precedes : Precedes isBefore where
  asymm := componentsBefore_asymm
  through {_ _} h q := componentsBefore_or h q.components

/-- Paths of which neither comes before the other are those with the same components. -/
theorem isSame_iff (p q : Path) : p.isSame q = true ↔ p.isBefore q = false ∧ q.isBefore p = false := by
  rw [isSame, beq_iff_eq]
  constructor
  · intro h
    have hself := precedes.tied_self q
    simp only [Precedes.Tied, Bool.and_self, Bool.not_eq_true'] at hself
    rw [isBefore, isBefore, h, ← isBefore]
    exact ⟨hself, hself⟩
  · exact fun h => eq_of_not_componentsBefore h.1 h.2

end Path

end NameLint.FileTree
