import NameLint.Naming.Pattern
import NameLint.Proofs.Regex.Enclosed
import NameLint.Proofs.Regex.Language

/-!
# Patterns and whole names

A pattern's text is put into a group between anchors before it is read. For nearly all texts this makes the
pattern fit the names in the language of the text, as a whole, and refuses the texts that are no expressions.
Two kinds of text escape the group: those that end in a comment, and those that close the group and
open another one.
-/

namespace NameLint.Naming.Pattern

open NameLint.Regex

/-- A text is an expression by itself, whatever its size. -/
def WellFormed (text : List Char) : Prop :=
  Completes .initial text

instance (text : List Char) : Decidable (WellFormed text) :=
  inferInstanceAs (Decidable (_ = true))

/-- A name as a whole is in the language of the expression that a text spells by itself. -/
def InLanguage (text name : List Char) : Prop :=
  ∃ t, parseFrom? .initial text = some t ∧ t.expr.Matches name

/-- The expression that a text spells, if any, is neither nested nor grows beyond the limits. -/
def WithinLimits (text : List Char) : Prop :=
  ∀ t ∈ parseFrom? .initial text, t.depth ≤ nestLimit ∧ t.expr.weight ≤ weightLimit

instance (text : List Char) : Decidable (WithinLimits text) :=
  inferInstanceAs (Decidable (∀ t ∈ parseFrom? .initial text, _))

/-- An expression that a closing parenthesis behind it leaves one: it ends in a comment. -/
def EndsInComment (text : List Char) : Prop :=
  WellFormed text ∧ WellFormed (text ++ [')'])

instance (text : List Char) : Decidable (EndsInComment text) :=
  inferInstanceAs (Decidable (_ ∧ _))

/-- A text that is no expression by itself, since a parenthesis in it closes more than it opens, but is one in
the group between anchors, since it opens as much again. -/
def LeavesGroup (text : List Char) : Prop :=
  ClosesTooMuch .initial text ∧ WellFormed (anchored text)

/-- What stands around the group between anchors. -/
def anchorFrame : GroupFrame := ⟨[⟨.anchor .textStart, 0, true⟩], [], {}⟩

/-- A piece that is read with the flags that hold at first, outside of verbose mode. -/
theorem parseFrom?_cons {st : ParseState} (h : st.flags = {}) (c : Char) (rest : List Char) :
    parseFrom? st (c :: rest) = (readPiece? st c rest).bind fun read => parseFrom? read.1 read.2 :=
  parseFrom?_of_skip_eq_cons st (by rw [h]; rfl)

theorem parseFrom?_anchored (text : List Char) :
    parseFrom? .initial (anchored text) =
      parseFrom? (ParseState.initial.under [anchorFrame]) (text ++ [')', '$']) := by
  have htext : anchored text = '^' :: '(' :: '?' :: ':' :: (text ++ [')', '$']) := by
    simp [anchored]
  have hcaret (rest : List Char) : readPiece? .initial '^' rest =
      some (ParseState.initial.add (.anchor .textStart) 0, rest) := rfl
  have hgroup (rest : List Char) :
      readPiece? (ParseState.initial.add (.anchor .textStart) 0) '(' ('?' :: ':' :: rest) =
        some (ParseState.initial.under [anchorFrame], rest) := rfl
  rw [htext, parseFrom?_cons rfl, hcaret, Option.bind_some, parseFrom?_cons rfl, hgroup, Option.bind_some]

/-- At the end of the group comes the anchor at the end of the text, whatever flags the text has set. -/
theorem parseFrom?_anchor_end {fin : ParseState} (h : fin.frames = []) :
    ∃ t, parseFrom? (fin.under [anchorFrame]) [')', '$'] = some t ∧
      t.expr = .seq (.anchor .textStart) (.seq fin.groupTerm.expr (.anchor .textEnd)) ∧
      t.depth = fin.groupTerm.depth + 2 := by
  obtain ⟨closed, hclosed, hterms, hbranches, hframes, hflags⟩ :
      ∃ closed : ParseState, (fin.under [anchorFrame]).closeGroup? = some closed ∧
        closed.terms = [⟨fin.groupTerm.expr, fin.groupTerm.depth + 1, true⟩,
          ⟨.anchor .textStart, 0, true⟩] ∧
        closed.branches = [] ∧ closed.frames = [] ∧ closed.flags = {} := by
    simp [ParseState.closeGroup?, h, anchorFrame]
  have hparen : readPiece? (fin.under [anchorFrame]) ')' ['$'] = some (closed, ['$']) := by
    simp [readPiece?, hclosed]
  have hend : readPiece? closed '$' [] = some (closed.add (.anchor .textEnd) 0, []) := by
    simp [readPiece?, endAnchor, hflags]
  rw [parseFrom?_of_skip_eq_cons _ (Flags.skip_closeParen ..), hparen, Option.bind_some,
    parseFrom?_cons hflags, hend, Option.bind_some, parseFrom?_nil]
  generalize fin.groupTerm = inner at hterms
  simp [ParseState.add, ParseState.groupTerm, Term.sequence, Term.alternatives, Expr.seqAll, hterms,
    hbranches, hframes, Nat.add_comm 1]

/-! ## Texts in the group -/

theorem wellFormed_anchored_of_not_endsInComment {text : List Char} {t : Term}
    (h : parseFrom? .initial text = some t) (hcomment : ¬ EndsInComment text) :
    ∃ t', parseFrom? .initial (anchored text) = some t' ∧
      t'.expr = .seq (.anchor .textStart) (.seq t.expr (.anchor .textEnd)) := by
  obtain ⟨fin, hframes, rfl, hthrough⟩ := readThrough_of_parseFrom? h
  cases hthrough with
  | stays hstays =>
      obtain ⟨t', ht', hexpr, -⟩ := parseFrom?_anchor_end hframes
      rw [parseFrom?_anchored, hstays]
      exact ⟨t', ht', hexpr⟩
  | inComment hswallows =>
      refine absurd ⟨by rw [WellFormed, Completes, h]; rfl, ?_⟩ hcomment
      have hparen := hswallows [] [] (by simp)
      rw [ParseState.under_nil, ParseState.under_nil, parseFrom?_nil] at hparen
      simp [WellFormed, Completes, hparen, hframes]

theorem not_wellFormed_anchored_of_endsInComment {text : List Char} (h : EndsInComment text) :
    ¬ WellFormed (anchored text) := by
  obtain ⟨htext, hparen⟩ := h
  obtain ⟨t, ht⟩ := Option.isSome_iff_exists.mp htext
  obtain ⟨fin, hframes, -, hthrough⟩ := readThrough_of_parseFrom? ht
  cases hthrough with
  | stays hstays =>
      have hclosed := hstays [] []
      rw [ParseState.under_nil, ParseState.under_nil, parseFrom?_closeParen hframes] at hclosed
      simp [WellFormed, Completes, hclosed] at hparen
  | inComment hswallows =>
      rw [WellFormed, Completes, parseFrom?_anchored, hswallows [anchorFrame] ['$'] (by decide),
        parseFrom?_nil]
      simp

/-! ## Patterns -/

variable {source : String}

theorem isSome_custom?_iff (h : WithinLimits (anchored source.toList)) :
    (custom? source).isSome = true ↔ WellFormed (anchored source.toList) := by
  unfold custom? Expr.parse? WellFormed Completes
  cases hparse : parseFrom? .initial (anchored source.toList) with
  | none => simp
  | some t => simp [h t hparse]

theorem custom?_eq_some_iff (h : WithinLimits (anchored source.toList)) (p : Pattern) :
    custom? source = some p ↔
      ∃ t, parseFrom? .initial (anchored source.toList) = some t ∧ .custom source t.expr = p := by
  unfold custom? Expr.parse?
  cases hparse : parseFrom? .initial (anchored source.toList) with
  | none => simp
  | some t => simp [h t hparse]

theorem inLanguage_iff {text name : List Char} {t : Term} (h : parseFrom? .initial text = some t) :
    InLanguage text name ↔ t.expr.Matches name := by
  simp [InLanguage, h]

/-- An expression that ends in a comment is refused. -/
example : EndsInComment "(?x)a # b".toList ∧ (custom? "(?x)a # b").isNone = true := by
  decide +kernel

/-! ## Names matched as a whole -/

/-- Whether a pattern matches a name as a whole. -/
def MatchesWhole : Pattern → String → Prop
  | .builtin style, name => style.fits name = true
  | .custom _ expr, name => expr.Matches name.toList

instance : (p : Pattern) → (name : String) → Decidable (p.MatchesWhole name)
  | .builtin style, name => inferInstanceAs (Decidable (style.fits name = true))
  | .custom _ expr, name => decidable_of_iff _ (Expr.found_between_anchors_iff expr name.toList)

/-- The literal of a pattern, if it has one, does not leave its group. -/
def IsEnclosed (p : Pattern) : Prop :=
  ∀ source expr, p = .custom source expr → ¬ LeavesGroup source.toList

theorem fits_of_matchesWhole {p : Pattern} {name : String} (h : p.MatchesWhole name) : p.fits name = true := by
  cases p with
  | builtin style => exact h
  | custom source expr => exact (Expr.found_iff expr name.toList).mpr ⟨0, Nat.zero_le _, _, h⟩

theorem exists_parse_of_custom? {p : Pattern} (h : custom? source = some p) :
    ∃ t, parseFrom? .initial (anchored source.toList) = some t ∧ .custom source t.expr = p := by
  unfold custom? Expr.parse? at h
  cases hparse : parseFrom? .initial (anchored source.toList) with
  | none => simp [hparse] at h
  | some t =>
      simp only [hparse] at h
      split at h
      · exact ⟨t, rfl, by simpa using h⟩
      · cases h

/-- The literal of a pattern that does not leave its group is read by itself and then anchored. -/
theorem exists_anchored_of_custom? {p : Pattern} (h : custom? source = some p)
    (hgroup : ¬ LeavesGroup source.toList) :
    ∃ expr, p = .custom source (.seq (.anchor .textStart) (.seq expr (.anchor .textEnd))) := by
  obtain ⟨t', ht', rfl⟩ := exists_parse_of_custom? h
  have hanchored : WellFormed (anchored source.toList) := by simp [WellFormed, Completes, ht']
  have htext : WellFormed source.toList := by
    have henclosed := hanchored
    rw [WellFormed, Completes, parseFrom?_anchored] at henclosed
    exact (completes_of_enclosed henclosed).resolve_right fun hcloses => hgroup ⟨hcloses, hanchored⟩
  have hcomment : ¬ EndsInComment source.toList := fun hcomment =>
    not_wellFormed_anchored_of_endsInComment hcomment hanchored
  obtain ⟨t, ht⟩ := Option.isSome_iff_exists.mp htext
  obtain ⟨t'', ht'', hexpr⟩ := wellFormed_anchored_of_not_endsInComment ht hcomment
  cases ht'.symm.trans ht''
  exact ⟨t.expr, by rw [hexpr]⟩

/-- A pattern whose literal does not leave its group fits the names that it matches as a whole. -/
theorem matchesWhole_iff_fits {text : String} {p : Pattern} (h : ofText? text = some p)
    (henclosed : p.IsEnclosed) (name : String) : p.MatchesWhole name ↔ p.fits name = true := by
  refine ⟨fits_of_matchesWhole, fun hfits => ?_⟩
  unfold ofText? at h
  split at h
  · cases h
    exact hfits
  · obtain ⟨t, -, hp⟩ := exists_parse_of_custom? h
    obtain ⟨expr, rfl⟩ := exists_anchored_of_custom? h (henclosed text t.expr hp.symm)
    have hmatches : expr.Matches name.toList := (Expr.found_between_anchors_iff expr name.toList).mp hfits
    exact ⟨0, by simp [Expr.Leads, Anchor.holds], name.toList.length, hmatches,
      by simp [Expr.Leads, Anchor.holds]⟩

end NameLint.Naming.Pattern
