import NameLint.Proofs.Reading.Names
import NameLint.Proofs.Reading.Depth

/-!
# The order of the names that are found

Names are found in the order of the text, except that the tokens of a declaration are looked at again after
the body of a type in it: a name in front of the body may be reported after the names of the body, and the
name of the type once more. The names of a text are in order exactly if that never happens.
-/

namespace NameLint.Declaration

open NameLint.Source

/-- `found` stand at strictly increasing places. -/
def Increasing (found : List Occurrence) : Prop := found.Pairwise fun o p => o.place < p.place

instance (found : List Occurrence) : Decidable (Increasing found) :=
  inferInstanceAs (Decidable (List.Pairwise _ _))

namespace Reading

/-- The body of a type stands behind a place in the statement at hand. -/
def HasBodyAfter (r : Reading) (place : Position) : Prop :=
  ∃ b ∈ r.statement, b.kind = .body ∧ place < b.place

end Reading

/-- Whenever a name is reported from in front of a body in its statement, nothing at its place or behind it
has been reported before. -/
def ReportsInTurn (limit : Nat) (ts : List Token) : Prop :=
  ∀ before t rest r found s new, ts = before ++ t :: rest →
    Reading.run limit {} before = .ok (r, found) → r.step limit t = .ok (s, new) →
    ∀ o ∈ new, r.HasBodyAfter o.place → ∀ p ∈ found, p.place < o.place

namespace Reading

/-! ## The invariant of reading -/

/-- After the names `found`, and before the tokens `rest`: the statement and all declarations that go on
later stand in order and before `rest`, and so do the names. A token of the statement is behind all names
that were found, unless the body of a type stands between. -/
structure InPlace (r : Reading) (found : List Occurrence) (rest : List Token) : Prop where
  statement : InOrder (r.statement ++ rest)
  declarations : ∀ f ∈ r.scopes, InOrder (f.declaration ++ rest)
  known : ∀ o ∈ found, ∀ t ∈ rest, o.place < t.place
  fresh : ∀ n ∈ r.statement, ¬ r.HasBodyAfter n.place → ∀ o ∈ found, o.place < n.place

variable {limit : Nat} {r s : Reading} {t : Token} {ts : List Token} {found new : List Occurrence}

theorem declaration_of_mem_setAccess {scopes : Scopes} {access : Access} {f : Frame}
    (h : f ∈ scopes.setAccess access) : ∃ g ∈ scopes, f.declaration = g.declaration := by
  unfold Scopes.setAccess at h
  split at h
  · rcases List.mem_cons.mp h with rfl | h
    · exact ⟨_, List.mem_cons_self, rfl⟩
    · exact ⟨f, List.mem_cons_of_mem _ h, rfl⟩
  · exact ⟨f, h, rfl⟩

theorem InPlace.known_append (hr : r.InPlace found (t :: ts)) (h : Step limit r t s new) :
    ∀ o ∈ found ++ new, ∀ u ∈ ts, o.place < u.place := by
  intro o ho u hu
  rcases List.mem_append.mp ho with ho | ho
  · exact hr.known o ho u (List.mem_cons_of_mem t hu)
  · obtain ⟨names, hsub, -, hnames⟩ := h.names
    obtain ⟨n, hn, heq⟩ := hnames.exists_name ho
    rw [← heq]
    exact hr.statement.lt_of_append (hsub.mem hn) (List.mem_cons_of_mem t hu)

theorem InPlace.of_nil {scopes : Scopes} (horder : InOrder ts)
    (hdeclarations : ∀ f ∈ scopes, InOrder (f.declaration ++ ts))
    (hknown : ∀ o ∈ found, ∀ t ∈ ts, o.place < t.place) : InPlace ⟨scopes, []⟩ found ts where
  statement := horder
  declarations := hdeclarations
  known := hknown
  fresh := by simp

theorem InPlace.fresh_snoc {scopes : Scopes} {kind : TokenKind} (hr : r.InPlace found (t :: ts)) :
    ∀ n ∈ r.statement ++ [{ t with kind }],
      ¬ HasBodyAfter ⟨scopes, r.statement ++ [{ t with kind }]⟩ n.place →
      ∀ o ∈ found, o.place < n.place := by
  intro n hn hbody o ho
  rcases List.mem_append.mp hn with hn | hn
  · refine hr.fresh n hn (fun ⟨b, hb, hkind, hlt⟩ => hbody ⟨b, ?_, hkind, hlt⟩) o ho
    exact List.mem_append_left _ hb
  · rw [List.mem_singleton.mp hn]
    exact hr.known o ho t List.mem_cons_self

/-- Every token keeps the invariant. -/
theorem Step.inPlace (h : Step limit r t s new) (hr : r.InPlace found (t :: ts)) :
    s.InPlace (found ++ new) ts := by
  have hknown := hr.known_append h
  have hstatement : InOrder (r.statement ++ ts) := hr.statement.drop_middle
  have horder : InOrder ts := (List.pairwise_append.mp hstatement).2.1
  have hdeclarations : ∀ f ∈ r.scopes, InOrder (f.declaration ++ ts) := fun f hf =>
    (hr.declarations f hf).drop_middle
  cases h with
  | opens brace room =>
      have hframe : InOrder (r.openedFrame.declaration ++ ts) := by
        rcases r.openedFrame_declaration with h | h <;> rw [h]
        · exact hstatement
        · exact horder
      have hscopes : ∀ f ∈ r.openedFrame :: r.scopes, InOrder (f.declaration ++ ts) :=
        List.forall_mem_cons.mpr ⟨hframe, hdeclarations⟩
      rcases r.openedStatement_cases with h | ⟨h, hnone⟩
      · rw [h]
        exact .of_nil horder hscopes hknown
      · -- An initializer leaves the statement open, and so it must not make a name of it known.
        rw [hnone, Option.toList_none, List.append_nil] at hknown ⊢
        rw [h]
        exact ⟨hstatement, hscopes, hknown, hr.fresh⟩
  | closes brace open_ =>
      rename_i frame outer
      rw [List.append_nil] at hknown ⊢
      rw [open_] at hdeclarations
      have houter : ∀ f ∈ outer, InOrder (f.declaration ++ ts) := fun f hf =>
        hdeclarations f (List.mem_cons_of_mem frame hf)
      have hframe := hr.declarations frame (by simp [open_])
      rcases r.closedStatement_cases frame outer t with h | h | h | h <;> rw [h]
      · exact .of_nil horder houter hknown
      · exact ⟨hstatement, houter, hknown, hr.fresh⟩
      · exact ⟨hr.statement.snoc, houter, hknown, hr.fresh_snoc⟩
      · refine ⟨hframe.snoc, houter, hknown, fun n hn hbody o ho => ?_⟩
        -- The body stands behind the whole declaration, so only its own place is left.
        rcases List.mem_append.mp hn with hn | hn
        · have hlt : n.place < t.place := hframe.lt_of_append hn List.mem_cons_self
          exact absurd ⟨{ t with kind := .body }, by simp, rfl, hlt⟩ hbody
        · rw [List.mem_singleton.mp hn]
          exact hr.known o ho t List.mem_cons_self
  | passes ho hc hidden =>
      rw [List.append_nil] at hknown ⊢
      exact ⟨hstatement, hdeclarations, hknown, hr.fresh⟩
  | ends semicolon visible => exact .of_nil horder hdeclarations hknown
  | labels colon visible label =>
      obtain ⟨hnil, hscopes⟩ := endLabel?_scopes label
      have hlabelled : ∀ f ∈ s.scopes, InOrder (f.declaration ++ ts) := by
        intro f hf
        rcases hscopes with h | ⟨access, h⟩ <;> rw [h] at hf
        · exact hdeclarations f hf
        · obtain ⟨g, hg, heq⟩ := declaration_of_mem_setAccess hf
          exact heq ▸ hdeclarations g hg
      obtain ⟨scopes, statement⟩ := s
      cases hnil
      exact .of_nil horder hlabelled hknown
  | continues ho hc visible notEnd notLabel =>
      rw [List.append_nil] at hknown ⊢
      exact ⟨hr.statement.snoc, hdeclarations, hknown, hr.fresh_snoc⟩

/-! ## Runs -/

/-- One token adds names in order, if those in front of a body are reported in turn. -/
theorem Step.increasing (h : Step limit r t s new) (hr : r.InPlace found (t :: ts))
    (hfound : Increasing found)
    (hturn : ∀ o ∈ new, r.HasBodyAfter o.place → ∀ p ∈ found, p.place < o.place) :
    Increasing (found ++ new) := by
  obtain ⟨names, hsub, -, hnames⟩ := h.names
  have hnew : Increasing new := by
    have horder : names.Pairwise fun n m => n.place < m.place :=
      (List.pairwise_append.mp hr.statement).1.sublist hsub
    rw [← List.pairwise_map (f := Token.place), ← hnames.places, List.pairwise_map] at horder
    exact horder
  refine List.pairwise_append.mpr ⟨hfound, hnew, fun p hp o ho => ?_⟩
  by_cases hbody : r.HasBodyAfter o.place
  · exact hturn o ho hbody p hp
  obtain ⟨n, hn, heq⟩ := hnames.exists_name ho
  rw [← heq] at hbody ⊢
  exact hr.fresh n (hsub.mem hn) hbody p hp

theorem increasing_extractFrom (hr : r.InPlace found ts) (hfound : Increasing found)
    (hturn : ∀ before t rest m first u new, ts = before ++ t :: rest →
      r.run limit before = .ok (m, first) → m.step limit t = .ok (u, new) →
      ∀ o ∈ new, m.HasBodyAfter o.place → ∀ p ∈ found ++ first, p.place < o.place) :
    Increasing (found ++ (extractFrom limit r ts).found) := by
  induction ts generalizing r found with
  | nil => simpa [extractFrom] using hfound
  | cons t ts ih =>
      cases hstep : r.step limit t with
      | error e => simpa [extractFrom, hstep] using hfound
      | ok p =>
          obtain ⟨s, new⟩ := p
          have h := Step.of_step_eq hstep
          have hnew := h.increasing hr hfound fun o ho hbody p hp =>
            hturn [] t ts r [] s new rfl rfl hstep o ho hbody p (by simpa using hp)
          rw [h.extractFrom_cons, after, ← List.append_assoc]
          refine ih (h.inPlace hr) hnew fun before u rest m first v last hts hrun hu o ho hbody p hp => ?_
          have hlonger := h.run_cons hrun
          refine hturn (t :: before) u rest m _ v last (by rw [hts]; rfl) hlonger hu o ho hbody p ?_
          rwa [← List.append_assoc]

theorem inPlace_start (hts : InOrder ts) : InPlace {} [] ts where
  statement := hts
  declarations := by simp
  known := by simp
  fresh := by simp

theorem reportsInTurn_of_increasing (h : Increasing (extractFrom limit {} ts).found) :
    ReportsInTurn limit ts := by
  rintro before t rest r found s new rfl hrun hstep o ho - p hp
  rw [extractFrom_append hrun, (Step.of_step_eq hstep).extractFrom_cons] at h
  exact (List.pairwise_append.mp h).2.2 p hp o (List.mem_append_left _ ho)

end Reading

/-- The names of a text are found in strictly increasing order, so that none is found twice, exactly if
every name that is reported from in front of a type's body in its statement is reported in turn. -/
theorem found_increasing_iff (text : String) (limit : Nat) :
    (Increasing (extract text limit).found ↔ ReportsInTurn limit (tokens text)) ∧
      (ReportsInTurn limit (tokens text) → ((extract text limit).found.map (·.place)).Nodup) := by
  have hiff : Increasing (extract text limit).found ↔ ReportsInTurn limit (tokens text) := by
    refine ⟨Reading.reportsInTurn_of_increasing, fun h => ?_⟩
    exact Reading.increasing_extractFrom (Reading.inPlace_start (tokens_inOrder text)) .nil
      fun before t rest m first u new hts hrun hstep o ho hbody p hp =>
        h before t rest m first u new hts hrun hstep o ho hbody p hp
  refine ⟨hiff, fun h => ?_⟩
  rw [List.Nodup, List.pairwise_map]
  exact (hiff.mpr h).imp Position.ne_of_lt

/-- A class with a macro in front of its name and a base class: its name is found where its body opens, and
once more, as a variable, after its body. -/
theorem found_not_increasing_exported_class :
    (extract "class MYLIB_API Widget : public Base { };").found =
        [⟨.classType, "Widget", ⟨1, 17⟩⟩, ⟨.global .variable, "Widget", ⟨1, 17⟩⟩] ∧
      ¬ Increasing (extract "class MYLIB_API Widget : public Base { };").found := by
  decide +kernel

end NameLint.Declaration
