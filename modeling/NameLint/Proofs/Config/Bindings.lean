import Mathlib.Data.List.Nodup
import NameLint.Config.Basic
import NameLint.Proofs.Scan.Check

/-!
# What entries bind

A list of entries makes up a configuration exactly when each of them can be bound for itself and no two name the
same context. So the order of the entries does not matter, and an entry has an effect on the names of its own
context only.
-/

namespace NameLint.Config

open NameLint.Declaration NameLint.Naming

/-- The binding that an entry makes: its key has to name a context and its value has to be a pattern. -/
def Entry.binding? (entry : Entry) : Option Binding :=
  (Context.ofKey? entry.key).bind fun context =>
    (Pattern.ofText? entry.value).map fun pattern => ⟨context, pattern, entry.position⟩

theorem Entry.binding?_eq_some_iff {entry : Entry} {b : Binding} :
    entry.binding? = some b ↔ Context.ofKey? entry.key = some b.context ∧
      Pattern.ofText? entry.value = some b.pattern ∧ entry.position = b.position := by
  obtain ⟨context, pattern, position⟩ := b
  simp only [binding?, Option.bind_eq_some_iff, Option.map_eq_some_iff, Binding.mk.injEq]
  constructor
  · rintro ⟨_, hcontext, _, hpattern, rfl, rfl, rfl⟩
    exact ⟨hcontext, hpattern, rfl⟩
  · rintro ⟨hcontext, hpattern, hposition⟩
    exact ⟨context, hcontext, pattern, hpattern, rfl, rfl, hposition⟩

namespace Configuration

variable {config built other : Configuration} {entry : Entry} {entries others : List Entry} {context : Context}
  {pattern : Pattern}

/-- The contexts that a configuration binds. -/
def contexts (config : Configuration) : List Context := config.bindings.map (·.context)

theorem find?_eq_none_iff : config.find? context = none ↔ context ∉ config.contexts := by
  simp [find?, contexts]

theorem of_find?_eq_some {b : Binding} (h : config.find? context = some b) :
    b ∈ config.bindings ∧ b.context = context :=
  ⟨List.mem_of_find?_eq_some h, by simpa [find?] using List.find?_some h⟩

theorem find?_eq_some_iff {b : Binding} (hnodup : config.contexts.Nodup) :
    config.find? context = some b ↔ b ∈ config.bindings ∧ b.context = context := by
  refine ⟨of_find?_eq_some, ?_⟩
  rintro ⟨hb, rfl⟩
  cases h : config.find? b.context with
  | none => exact absurd (List.mem_map.mpr ⟨b, hb, rfl⟩) (find?_eq_none_iff.mp h)
  | some b' =>
      obtain ⟨hb', hsame⟩ := of_find?_eq_some h
      rw [List.inj_on_of_nodup_map hnodup hb' hb hsame]

theorem bind_eq_ok_iff : config.bind entry = .ok built ↔
    ∃ b, entry.binding? = some b ∧ b.context ∉ config.contexts ∧ built = ⟨config.bindings ++ [b]⟩ := by
  constructor
  · intro h
    unfold bind at h
    split at h
    · cases h
    rename_i context hcontext
    split at h
    · cases h
    rename_i hfind
    split at h
    · cases h
    rename_i pattern hpattern
    cases h
    refine ⟨_, ?_, find?_eq_none_iff.mp hfind, rfl⟩
    exact Entry.binding?_eq_some_iff.mpr ⟨hcontext, hpattern, rfl⟩
  · rintro ⟨b, hb, hnew, rfl⟩
    obtain ⟨hcontext, hpattern, hposition⟩ := Entry.binding?_eq_some_iff.mp hb
    simp [bind, hcontext, find?_eq_none_iff.mpr hnew, hpattern, hposition]

/-- Entries are added to a configuration exactly when each makes a binding and no context is bound twice. -/
theorem bindAll_eq_ok_iff (hnodup : config.contexts.Nodup) :
    config.bindAll entries = .ok built ↔ (∀ e ∈ entries, e.binding?.isSome = true) ∧ built.contexts.Nodup ∧
      built = ⟨config.bindings ++ entries.filterMap Entry.binding?⟩ := by
  induction entries generalizing config with
  | nil =>
      simp only [bindAll, List.filterMap_nil, List.append_nil, List.not_mem_nil, false_implies, implies_true,
        true_and, Except.ok.injEq]
      constructor
      · rintro rfl
        exact ⟨hnodup, rfl⟩
      · rintro ⟨-, rfl⟩
        rfl
  | cons entry rest ih =>
      rw [bindAll, List.forall_mem_cons]
      cases hbind : config.bind entry with
      | ok config' =>
          obtain ⟨b, hb, hnew, rfl⟩ := bind_eq_ok_iff.mp hbind
          have hnodup' : (contexts ⟨config.bindings ++ [b]⟩).Nodup := by
            rw [contexts, List.map_append, List.map_singleton]
            refine List.nodup_append.mpr ⟨hnodup, by simp, fun c hold c' hc' => ?_⟩
            rw [List.mem_singleton.mp hc']
            rintro rfl
            exact hnew hold
          simp [ih hnodup', hb]
      | error e =>
          refine iff_of_false (by simp) ?_
          rintro ⟨⟨hentry, -⟩, hbuilt, rfl⟩
          obtain ⟨b, hb⟩ := Option.isSome_iff_exists.mp hentry
          have hok : config.bind entry = .ok ⟨config.bindings ++ [b]⟩ := by
            refine bind_eq_ok_iff.mpr ⟨b, hb, fun hold => ?_, rfl⟩
            rw [contexts, List.filterMap_cons_some hb, List.map_append, List.map_cons] at hbuilt
            exact (List.nodup_append.mp hbuilt).2.2 _ hold _ (List.mem_cons_self ..) rfl
          cases hbind.symm.trans hok

/-- A list of entries makes up a configuration exactly when each of them makes a binding and no two bind the
same context. -/
theorem build_eq_ok_iff : build entries = .ok config ↔
    (∀ e ∈ entries, e.binding?.isSome = true) ∧ config.contexts.Nodup ∧
      config = ⟨entries.filterMap Entry.binding?⟩ :=
  bindAll_eq_ok_iff List.nodup_nil

/-- The pattern of a context is that of the entry that names it. -/
theorem pattern?_eq_some_iff (h : build entries = .ok config) : config.pattern? context = some pattern ↔
    ∃ e ∈ entries, Context.ofKey? e.key = some context ∧ Pattern.ofText? e.value = some pattern := by
  obtain ⟨-, hnodup, rfl⟩ := build_eq_ok_iff.mp h
  simp only [pattern?, Option.map_eq_some_iff, find?_eq_some_iff hnodup, List.mem_filterMap,
    Entry.binding?_eq_some_iff]
  constructor
  · rintro ⟨b, ⟨⟨e, he, hcontext, hpattern, -⟩, rfl⟩, rfl⟩
    exact ⟨e, he, hcontext, hpattern⟩
  · rintro ⟨e, he, hcontext, hpattern⟩
    exact ⟨⟨context, pattern, e.position⟩, ⟨⟨e, he, hcontext, hpattern, rfl⟩, rfl⟩, rfl⟩

theorem pattern?_congr_of_perm (hperm : entries.Perm others) (h : build entries = .ok config)
    (h' : build others = .ok other) (context : Context) : config.pattern? context = other.pattern? context := by
  refine Option.ext fun pattern => ?_
  simp only [pattern?_eq_some_iff h, pattern?_eq_some_iff h', hperm.mem_iff]

theorem build_of_perm (hperm : entries.Perm others) (h : build entries = .ok config) :
    ∃ other, build others = .ok other := by
  obtain ⟨hentries, hnodup, rfl⟩ := build_eq_ok_iff.mp h
  refine ⟨⟨others.filterMap Entry.binding?⟩, build_eq_ok_iff.mpr ⟨fun e he => ?_, ?_, rfl⟩⟩
  · exact hentries e (hperm.mem_iff.mpr he)
  · exact (((hperm.filterMap _).map _).nodup_iff).mp hnodup

/-- An entry that can be added names a context that was not bound, and binds no other one. -/
theorem exists_context_of_extended {extended : List Entry} (hperm : extended.Perm (entry :: entries))
    (h : build entries = .ok config) (h' : build extended = .ok other) :
    ∃ context, Context.ofKey? entry.key = some context ∧ config.pattern? context = none ∧
      ∀ context', context' ≠ context → other.pattern? context' = config.pattern? context' := by
  obtain ⟨all, hall⟩ := build_of_perm hperm h'
  obtain ⟨hentries, hnodup, rfl⟩ := build_eq_ok_iff.mp hall
  obtain ⟨b, hb⟩ := Option.isSome_iff_exists.mp (hentries entry (List.mem_cons_self ..))
  obtain ⟨hcontext, -, -⟩ := Entry.binding?_eq_some_iff.mp hb
  refine ⟨b.context, hcontext, ?_, fun context' hne => ?_⟩
  · obtain ⟨-, -, rfl⟩ := build_eq_ok_iff.mp h
    rw [contexts, List.filterMap_cons_some hb, List.map_cons, List.nodup_cons] at hnodup
    rw [pattern?, find?_eq_none_iff.mpr hnodup.1, Option.map_none]
  · refine Option.ext fun pattern => ?_
    simp only [pattern?_eq_some_iff h, pattern?_eq_some_iff h', hperm.mem_iff, List.mem_cons, exists_eq_or_imp,
      hcontext, Option.some.injEq, hne.symm, false_and, false_or]

end Configuration

theorem exists_pattern {x : Except ConfigError Configuration} {context : Context}
    {p : Pattern → Bool} (h : (x.toOption.bind (·.pattern? context)).any p = true) :
    ∃ c pattern, x = .ok c ∧ c.pattern? context = some pattern ∧ p pattern = true := by
  cases x with
  | error e => cases h
  | ok c =>
      cases hpattern : c.pattern? context with
      | none => simp [Except.toOption, hpattern] at h
      | some pattern => exact ⟨c, pattern, rfl, hpattern, by simpa [Except.toOption, hpattern] using h⟩

end NameLint.Config

namespace NameLint.Scan

open NameLint.Config NameLint.Declaration NameLint.FileTree NameLint.Report

variable {config other : Configuration} {limit : Nat} {file : Path} {text : String}

theorem evaluate_congr {o : Occurrence} (h : config.pattern? o.context = other.pattern? o.context) :
    evaluate config file o = evaluate other file o := by
  rw [evaluate, evaluate, h]

theorem context_of_evaluate {o : Occurrence} {v : Violation} (h : evaluate config file o = some v) :
    v.context = o.context := by
  obtain ⟨pattern, -, -, rfl⟩ := evaluate_eq_some_iff.mp h
  rfl

theorem checkText_congr (h : ∀ context, config.pattern? context = other.pattern? context) :
    checkText config limit file text = checkText other limit file text := by
  have hevaluate : evaluate config file = evaluate other file := funext fun o => evaluate_congr (h o.context)
  rw [checkText, checkText, hevaluate]

/-- Where a configuration binds one context more, no violation in another one comes or goes. -/
theorem filter_checkText {context : Context} (hnew : config.pattern? context = none)
    (h : ∀ context', context' ≠ context → other.pattern? context' = config.pattern? context') :
    (checkText other limit file text).map (·.filter (·.context != context)) =
      checkText config limit file text := by
  have hevaluate : ∀ o, (evaluate other file o).filter (·.context != context) = evaluate config file o := by
    intro o
    by_cases ho : o.context = context
    · have hnone : evaluate config file o = none := by rw [evaluate, ho, hnew]
      rw [hnone, Option.filter_eq_none_iff]
      intro v hv
      simp [context_of_evaluate hv, ho]
    · rw [evaluate_congr (h _ ho)]
      cases hv : evaluate config file o with
      | none => rfl
      | some v => exact Option.filter_some_pos (by simpa [context_of_evaluate hv] using ho)
  cases hfailed : (extract text limit).failed with
  | some e => simp [checkText, hfailed, Except.map]
  | none => simp [checkText, hfailed, Except.map, List.filter_filterMap, hevaluate]

/-- The order of the entries of a document has no effect on whether they make up a configuration, nor on what is
found to violate it. An entry that is added binds a context that was not bound, and the violations in all other
contexts stay what they are. -/
theorem checkText_of_entries :
    (∀ entries others : List Entry, entries.Perm others →
      ((∃ config, Configuration.build entries = .ok config) ↔
        ∃ config, Configuration.build others = .ok config) ∧
      ∀ config other, Configuration.build entries = .ok config → Configuration.build others = .ok other →
        ∀ limit file text, checkText config limit file text = checkText other limit file text) ∧
    (∀ (entries extended : List Entry) (entry : Entry), extended.Perm (entry :: entries) →
      ∀ config other, Configuration.build entries = .ok config → Configuration.build extended = .ok other →
        ∃ context, Context.ofKey? entry.key = some context ∧ config.pattern? context = none ∧
          ∀ limit file text,
            (checkText other limit file text).map (·.filter (·.context != context)) =
              checkText config limit file text) := by
  refine ⟨fun entries others hperm => ⟨⟨?_, ?_⟩, ?_⟩, ?_⟩
  · rintro ⟨config, h⟩
    exact Configuration.build_of_perm hperm h
  · rintro ⟨config, h⟩
    exact Configuration.build_of_perm hperm.symm h
  · intro config other h h' limit file text
    exact checkText_congr (Configuration.pattern?_congr_of_perm hperm h h')
  · intro entries extended entry hperm config other h h'
    obtain ⟨context, hcontext, hnew, hrest⟩ := Configuration.exists_context_of_extended hperm h h'
    exact ⟨context, hcontext, hnew, fun limit file text => filter_checkText hnew hrest⟩

/-- Entries for two contexts. -/
def classEntry : Entry := ⟨"classDef", "PascalCase", 1⟩

def enumEntry : Entry := ⟨"enumDef", "SnakeCase", 2⟩

theorem checkText_of_entries_class_enum :
    ∃ config other, Configuration.build [classEntry, enumEntry] = .ok config ∧
      Configuration.build [enumEntry, classEntry] = .ok other ∧
      (∀ limit file text, checkText config limit file text = checkText other limit file text) ∧
      ∃ classOnly, Configuration.build [classEntry] = .ok classOnly ∧
        ∃ context, Context.ofKey? enumEntry.key = some context ∧ classOnly.pattern? context = none ∧
          ∀ limit file text,
            (checkText other limit file text).map (·.filter (·.context != context)) =
              checkText classOnly limit file text := by
  obtain ⟨config, hconfig⟩ : ∃ config, Configuration.build [classEntry, enumEntry] = .ok config := ⟨_, rfl⟩
  obtain ⟨other, hother⟩ : ∃ other, Configuration.build [enumEntry, classEntry] = .ok other := ⟨_, rfl⟩
  obtain ⟨classOnly, hclassOnly⟩ : ∃ config, Configuration.build [classEntry] = .ok config := ⟨_, rfl⟩
  have hswap : [classEntry, enumEntry].Perm [enumEntry, classEntry] := .swap ..
  exact ⟨config, other, hconfig, hother,
    (checkText_of_entries.1 _ _ hswap).2 config other hconfig hother, classOnly, hclassOnly,
    checkText_of_entries.2 [classEntry] _ enumEntry (.refl _) classOnly other hclassOnly hother⟩

end NameLint.Scan
