import Mathlib.Data.List.Forall2
import Mathlib.Data.List.Perm.Subperm
import NameLint.Proofs.Config.Bindings

/-!
# Entries that are refused

Entries are bound one after the other, and what has been read so far decides what may still come: a key that names
no context, a context that was named before, or a value that is no pattern ends it. A configuration binds the
contexts of its entries in their order, each to the pattern that its entry gives.
-/

namespace NameLint.Config

open NameLint.Declaration NameLint.Naming

/-! ## Faults of entries -/

namespace Entry

/-- An entry cannot be bound behind others: its key names no context, or one that an earlier entry names, or its
value is neither the name of a style nor an expression. -/
def Faulty (before : List Entry) (entry : Entry) : Prop :=
  Context.ofKey? entry.key = none ∨
    (∃ earlier ∈ before, ∃ context, Context.ofKey? earlier.key = some context ∧
      Context.ofKey? entry.key = some context) ∨
    Style.ofName? entry.value = none ∧ Pattern.custom? entry.value = none

/-- The error for an entry behind others, of which none is faulty. The key is looked at before what was named
earlier, and the value last. -/
inductive Refused (before : List Entry) (entry : Entry) : ConfigError → Prop
  | unknownContext (unknown : Context.ofKey? entry.key = none) :
      Refused before entry (.unknownContext entry.key)
  | duplicateContext {context : Context} {earlier : Entry}
      (known : Context.ofKey? entry.key = some context)
      (only : before.filter (Context.ofKey? ·.key = some context) = [earlier]) :
      Refused before entry (.duplicateContext entry.key earlier.position entry.position)
  | invalidPattern {context : Context} (known : Context.ofKey? entry.key = some context)
      (new : ∀ earlier ∈ before, Context.ofKey? earlier.key ≠ some context)
      (noStyle : Style.ofName? entry.value = none)
      (noExpression : Pattern.custom? entry.value = none) :
      Refused before entry (.invalidPattern entry.key entry.value)

end Entry

/-- Some entry is faulty behind those in front of it. -/
def SomeFaulty (entries : List Entry) : Prop :=
  ∃ before entry after, entries = before ++ entry :: after ∧ entry.Faulty before

theorem ofText?_eq_none_iff {text : String} : Pattern.ofText? text = none ↔
    Style.ofName? text = none ∧ Pattern.custom? text = none := by
  unfold Pattern.ofText?
  cases Style.ofName? text <;> simp

theorem Entry.Refused.faulty {before : List Entry} {entry : Entry} {e : ConfigError}
    (h : entry.Refused before e) : entry.Faulty before := by
  cases h with
  | unknownContext unknown => exact .inl unknown
  | @duplicateContext context earlier known only =>
      have hmem : earlier ∈ before.filter (Context.ofKey? ·.key = some context) := by simp [only]
      obtain ⟨hbefore, hcontext⟩ := List.mem_filter.mp hmem
      exact .inr (.inl ⟨earlier, hbefore, context, by simpa using hcontext, known⟩)
  | invalidPattern known new noStyle noExpression => exact .inr (.inr ⟨noStyle, noExpression⟩)

namespace Configuration

variable {config built : Configuration} {entry : Entry} {before entries : List Entry} {context : Context}
  {e : ConfigError}

/-! ## What a configuration holds -/

/-- The contexts in the order of the document, each with the pattern that is found for it. -/
def listed (config : Configuration) : List (Context × Pattern) :=
  config.contexts.filterMap fun context => (config.pattern? context).map (context, ·)

/-- No binding is lost in looking up every context, as none hides another. -/
theorem listed_eq (hnodup : config.contexts.Nodup) :
    config.listed = config.bindings.map fun b => (b.context, b.pattern) := by
  unfold listed
  rw [contexts, List.filterMap_map, ← List.filterMap_eq_map]
  refine List.filterMap_congr fun b hb => ?_
  have hfind : config.find? b.context = some b := (find?_eq_some_iff hnodup).mpr ⟨hb, rfl⟩
  simp [pattern?, hfind]

/-- Entries that make up a configuration have their bindings in it, one by one. -/
theorem forall₂_of_build (h : build entries = .ok config) :
    List.Forall₂ (fun entry b => entry.binding? = some b) entries config.bindings := by
  obtain ⟨hentries, -, rfl⟩ := build_eq_ok_iff.mp h
  clear h
  induction entries with
  | nil => exact .nil
  | cons entry rest ih =>
      rw [List.forall_mem_cons] at hentries
      obtain ⟨b, hb⟩ := Option.isSome_iff_exists.mp hentries.1
      simp only [List.filterMap_cons_some hb]
      exact .cons hb (ih hentries.2)

theorem map_ofKey?_of_build (h : build entries = .ok config) :
    entries.map (Context.ofKey? ·.key) = config.contexts.map some := by
  have hbound := forall₂_of_build h
  rw [contexts]
  clear h
  generalize config.bindings = bindings at hbound
  induction hbound with
  | nil => rfl
  | cons hb _ ih =>
      simp only [List.map_cons, ih, (Entry.binding?_eq_some_iff.mp hb).1]

theorem nodup_of_build (h : build entries = .ok config) :
    (entries.map (Context.ofKey? ·.key)).Nodup := by
  rw [map_ofKey?_of_build h]
  exact (build_eq_ok_iff.mp h).2.1.map fun _ _ => Option.some.inj

theorem mem_contexts_of_build (h : build entries = .ok config) :
    context ∈ config.contexts ↔ ∃ entry ∈ entries, Context.ofKey? entry.key = some context := by
  have hmap := congrArg (some context ∈ ·) (map_ofKey?_of_build h)
  simpa using hmap.symm

/-- No entry of a configuration is faulty. -/
theorem not_someFaulty_of_build (h : build entries = .ok config) : ¬ SomeFaulty entries := by
  rintro ⟨before, entry, after, rfl, hfaulty⟩
  obtain ⟨b, hb⟩ := Option.isSome_iff_exists.mp ((build_eq_ok_iff.mp h).1 entry (by simp))
  obtain ⟨hcontext, hpattern, -⟩ := Entry.binding?_eq_some_iff.mp hb
  rcases hfaulty with hkey | ⟨earlier, hearlier, context, hfirst, hsecond⟩ | hvalue
  · cases hcontext.symm.trans hkey
  · have hnodup := nodup_of_build h
    rw [List.map_append, List.map_cons] at hnodup
    have hmem : some context ∈ before.map (Context.ofKey? ·.key) := hfirst ▸ List.mem_map_of_mem hearlier
    exact (List.nodup_append.mp hnodup).2.2 _ hmem _ (List.mem_cons_self ..) hsecond.symm
  · cases hpattern.symm.trans (ofText?_eq_none_iff.mpr hvalue)

/-! ## The entry that ends it -/

theorem filter_eq_singleton {α β : Type} [DecidableEq β] {f : α → β} {l : List α} {a : α}
    (hnodup : (l.map f).Nodup) (ha : a ∈ l) : l.filter (f · = f a) = [a] := by
  induction l with
  | nil => cases ha
  | cons b rest ih =>
      rw [List.map_cons, List.nodup_cons] at hnodup
      rcases List.mem_cons.mp ha with rfl | hrest
      · have hnone : rest.filter (f · = f a) = [] := by
          refine List.filter_eq_nil_iff.mpr fun c hc hsame => hnodup.1 ?_
          exact List.mem_map.mpr ⟨c, hc, by simpa using hsame⟩
        simp [hnone]
      · have hne : f b ≠ f a := fun hsame => hnodup.1 (hsame ▸ List.mem_map_of_mem hrest)
        simp [hne, ih hnodup.2 hrest]

/-- The binding of a context is that of the one entry that names it. -/
theorem find?_eq_some_iff_of_build {b : Binding} (h : build entries = .ok config) :
    config.find? context = some b ↔
      ∃ entry, entries.filter (Context.ofKey? ·.key = some context) = [entry] ∧ entry.binding? = some b := by
  have hnodup := nodup_of_build h
  obtain ⟨-, hcontexts, rfl⟩ := build_eq_ok_iff.mp h
  rw [find?_eq_some_iff hcontexts, List.mem_filterMap]
  constructor
  · rintro ⟨⟨entry, hentry, hb⟩, rfl⟩
    have honly := filter_eq_singleton hnodup hentry
    rw [(Entry.binding?_eq_some_iff.mp hb).1] at honly
    exact ⟨entry, honly, hb⟩
  · rintro ⟨entry, honly, hb⟩
    have hmem : entry ∈ entries.filter (Context.ofKey? ·.key = some context) := by simp [honly]
    obtain ⟨hentry, hcontext⟩ := List.mem_filter.mp hmem
    refine ⟨⟨entry, hentry, hb⟩, Option.some.inj ?_⟩
    rw [← (Entry.binding?_eq_some_iff.mp hb).1]
    simpa using hcontext

/-- What ends it behind entries that make up a configuration. -/
theorem bind_eq_error_iff (h : build before = .ok config) :
    config.bind entry = .error e ↔ entry.Refused before e := by
  constructor
  · intro hbind
    unfold bind at hbind
    split at hbind
    · rename_i hkey
      cases hbind
      exact .unknownContext hkey
    rename_i context hkey
    split at hbind
    · rename_i b hfind
      cases hbind
      obtain ⟨earlier, honly, hb⟩ := (find?_eq_some_iff_of_build h).mp hfind
      rw [← (Entry.binding?_eq_some_iff.mp hb).2.2]
      exact .duplicateContext hkey honly
    rename_i hfind
    split at hbind
    · rename_i hvalue
      cases hbind
      obtain ⟨hstyle, hexpression⟩ := ofText?_eq_none_iff.mp hvalue
      refine .invalidPattern hkey (fun earlier hearlier hsame => ?_) hstyle hexpression
      exact find?_eq_none_iff.mp hfind ((mem_contexts_of_build h).mpr ⟨earlier, hearlier, hsame⟩)
    · cases hbind
  · intro hrefused
    cases hrefused with
    | unknownContext unknown => simp [bind, unknown]
    | @duplicateContext context earlier known only =>
        have hmem : earlier ∈ before.filter (Context.ofKey? ·.key = some context) := by simp [only]
        obtain ⟨b, hb⟩ := Option.isSome_iff_exists.mp
          ((build_eq_ok_iff.mp h).1 earlier (List.mem_of_mem_filter hmem))
        have hfind : config.find? context = some b := (find?_eq_some_iff_of_build h).mpr ⟨earlier, only, hb⟩
        simp [bind, known, hfind, (Entry.binding?_eq_some_iff.mp hb).2.2]
    | @invalidPattern context known new noStyle noExpression =>
        have hfind : config.find? context = none := by
          rw [find?_eq_none_iff, mem_contexts_of_build h]
          rintro ⟨earlier, hearlier, hsame⟩
          exact new earlier hearlier hsame
        have hvalue : Pattern.ofText? entry.value = none := ofText?_eq_none_iff.mpr ⟨noStyle, noExpression⟩
        simp [bind, known, hfind, hvalue]

theorem bindAll_append :
    config.bindAll (before ++ entries) = (config.bindAll before).bind (·.bindAll entries) := by
  induction before generalizing config with
  | nil => rfl
  | cons entry before ih =>
      rw [List.cons_append, bindAll, bindAll]
      cases config.bind entry with
      | error e => rfl
      | ok config' => exact ih

/-- An error comes from one of the entries, and those in front of it have been bound. -/
theorem bindAll_eq_error_iff :
    config.bindAll entries = .error e ↔ ∃ before entry after bound, entries = before ++ entry :: after ∧
      config.bindAll before = .ok bound ∧ bound.bind entry = .error e := by
  constructor
  · intro h
    induction entries generalizing config with
    | nil => cases h
    | cons entry rest ih =>
        rw [bindAll] at h
        cases hbind : config.bind entry with
        | error e' =>
            rw [hbind] at h
            exact ⟨[], entry, rest, config, rfl, rfl, hbind.trans h⟩
        | ok config' =>
            rw [hbind] at h
            obtain ⟨before, entry', after, bound, rfl, hbefore, hentry⟩ := ih h
            exact ⟨entry :: before, entry', after, bound, rfl, by rw [bindAll, hbind]; exact hbefore, hentry⟩
  · rintro ⟨before, entry, after, bound, rfl, hbefore, hentry⟩
    rw [bindAll_append, hbefore, Except.bind, bindAll, hentry]

theorem build_eq_error_iff_bound : build entries = .error e ↔
    ∃ before entry after, entries = before ++ entry :: after ∧ (∃ bound, build before = .ok bound) ∧
      entry.Refused before e := by
  rw [build, bindAll_eq_error_iff]
  constructor
  · rintro ⟨before, entry, after, bound, hentries, hbefore, hentry⟩
    exact ⟨before, entry, after, hentries, ⟨bound, hbefore⟩, (bind_eq_error_iff hbefore).mp hentry⟩
  · rintro ⟨before, entry, after, hentries, ⟨bound, hbefore⟩, hrefused⟩
    exact ⟨before, entry, after, bound, hentries, hbefore, (bind_eq_error_iff hbefore).mpr hrefused⟩

theorem exists_error_iff : (∃ e, build entries = .error e) ↔ SomeFaulty entries := by
  constructor
  · rintro ⟨e, h⟩
    obtain ⟨before, entry, after, hentries, -, hrefused⟩ := build_eq_error_iff_bound.mp h
    exact ⟨before, entry, after, hentries, hrefused.faulty⟩
  · intro hfaulty
    cases h : build entries with
    | error e => exact ⟨e, rfl⟩
    | ok config => exact absurd hfaulty (not_someFaulty_of_build h)

theorem exists_ok_iff : (∃ config, build entries = .ok config) ↔ ¬ SomeFaulty entries := by
  rw [← exists_error_iff]
  cases build entries <;> simp

/-- Entries make up a configuration unless one of them is faulty, and the first that is tells the error. A
configuration lists the contexts of its entries in their order, no context twice, each with the pattern that the
value of its entry stands for; there are as many as entries, and a pattern is found for no other context. -/
theorem build_entries (entries : List Entry) :
    ((∃ e, build entries = .error e) ↔ SomeFaulty entries) ∧
    (∀ e, build entries = .error e ↔ ∃ before entry after, entries = before ++ entry :: after ∧
      ¬ SomeFaulty before ∧ entry.Refused before e) ∧
    (∀ config, build entries = .ok config →
      List.Forall₂ (fun entry listed => Context.ofKey? entry.key = some listed.1 ∧
        Pattern.ofText? entry.value = some listed.2) entries config.listed ∧
      (config.listed.map (·.1)).Nodup ∧
      config.contexts.length = entries.length ∧ entries.length ≤ 11 ∧
      ∀ context, (config.pattern? context).isSome = true ↔
        ∃ entry ∈ entries, Context.ofKey? entry.key = some context) := by
  refine ⟨exists_error_iff, fun e => ?_, fun config h => ?_⟩
  · simp only [build_eq_error_iff_bound, exists_ok_iff]
  · have hcontexts := (build_eq_ok_iff.mp h).2.1
    have hlength : entries.length = config.bindings.length := (forall₂_of_build h).length_eq
    have hlisted : config.listed.map (·.1) = config.contexts := by
      rw [listed_eq hcontexts, contexts, List.map_map]
      rfl
    refine ⟨?_, hlisted ▸ hcontexts, by rw [contexts, List.length_map, hlength], ?_, fun context => ?_⟩
    · rw [listed_eq hcontexts, List.forall₂_map_right_iff]
      refine (forall₂_of_build h).imp fun entry b hb => ?_
      obtain ⟨hcontext, hpattern, -⟩ := Entry.binding?_eq_some_iff.mp hb
      exact ⟨hcontext, hpattern⟩
    · have hsub := List.subperm_of_subset hcontexts fun context _ => Context.mem_all context
      rw [hlength, ← List.length_map]
      exact hsub.length_le
    · rw [← mem_contexts_of_build h, pattern?, Option.isSome_map, Option.isSome_iff_ne_none, ne_eq,
        find?_eq_none_iff, not_not]

open Scan in
/-- Behind two entries that can be bound, one is refused for its key although its value is no pattern either. -/
theorem build_entries_class_enum :
    build [classEntry, enumEntry, ⟨"classDef", "([a-z]", 7⟩] = .error (.duplicateContext "classDef" 1 7) ∧
      ∃ config, build [classEntry, enumEntry] = .ok config ∧
        config.listed = [(.classType, .builtin .pascal), (.enumType, .builtin .snake)] ∧
        List.Forall₂ (fun entry listed => Context.ofKey? entry.key = some listed.1 ∧
          Pattern.ofText? entry.value = some listed.2) [classEntry, enumEntry] config.listed ∧
        (config.listed.map (·.1)).Nodup ∧
        ((config.pattern? .structType).isSome = true ↔
          ∃ entry ∈ [classEntry, enumEntry], Context.ofKey? entry.key = some .structType) := by
  have h : build [classEntry, enumEntry] =
      .ok ⟨[⟨.classType, .builtin .pascal, 1⟩, ⟨.enumType, .builtin .snake, 2⟩]⟩ := rfl
  obtain ⟨hlisted, hnodup, -, -, hpattern⟩ := (build_entries _).2.2 _ h
  have hkey : Context.ofKey? "classDef" = some .classType := rfl
  have hrefused : Entry.Refused [classEntry, enumEntry] ⟨"classDef", "([a-z]", 7⟩
      (.duplicateContext "classDef" classEntry.position 7) :=
    .duplicateContext hkey (by decide)
  exact ⟨((build_entries _).2.1 _).mpr ⟨_, _, [], rfl, exists_ok_iff.mp ⟨_, h⟩, hrefused⟩, _, h, rfl, hlisted,
    hnodup, hpattern _⟩

end Configuration

end NameLint.Config
