import NameLint.Proofs.Reading.Enclosing
import NameLint.Proofs.Reading.Names

/-!
# The site of a name that is found

While tokens are read, the open scopes and the statement at hand agree with the tokens behind: each scope
stands for an open brace, with the access level that the labels in it have set, and each name that waits in
a statement or in a declaration that goes on later has the site of the scope it waits in. So a name is found
in the context that its own place asks for.
-/

namespace NameLint.Declaration

open NameLint.Source

/-- The contexts that a name at a site can be found in: that of a type, or the one of a function or
variable there. -/
inductive Site.Admits : Site → Context → Prop
  | type {site : Site} {context : Context} (visible : site ≠ .hidden)
      (type : context ∈ [.classType, .structType, .enumType]) : Admits site context
  | global (entity : Entity) : Admits .global (.global entity)
  | member (access : Access) (record : Option String) (entity : Entity) :
      Admits (.member access record) (.member access entity)

/-- The token at index `i` is the name of the occurrence, and its site admits the context. -/
structure FoundAt (limit : Nat) (ts : List Token) (i : Nat) (o : Occurrence) : Prop where
  token : ∃ n, ts[i]? = some n ∧ n.isName = true ∧ n.text = o.name ∧ n.place = o.place
  context : ∃ site, SiteAt limit ts i site ∧ site.Admits o.context

/-- The names among some tokens have been read at this site. -/
def NamesAt (limit : Nat) (ts : List Token) (site : Site) (names : List Token) : Prop :=
  ∀ n ∈ names, n.isName = true → ∃ i, ts[i]? = some n ∧ SiteAt limit ts i site

/-- The open scopes stand for the open braces with these indices, after the tokens `ts`. Inside of a body
that is not looked at there are no others, and a declaration that goes on later waits outside. -/
inductive Nested (limit : Nat) (ts : List Token) : List Nat → Scopes → Prop
  | outermost : Nested limit ts [] []
  | inside {j : Nat} {opened : List Nat} {frame : Frame} {outer : Scopes} {r : Reading}
      (index : j < ts.length) (before : ReadBefore limit ts j r)
      (opens : frame.unlabelled = r.openedFrame)
      (inForce : ∀ kind name access, frame.kind = .recordBody kind name access →
        InForce ts j ts.length kind.defaultAccess access)
      (hidden : Scopes.isHidden outer = true → frame.kind.isHidden = true)
      (declaration : NamesAt limit ts outer.site frame.declaration)
      (rest : Nested limit ts opened outer) : Nested limit ts (j :: opened) (frame :: outer)

/-- The scopes without those in the innermost body that is not looked at, nor that body. -/
def Scopes.visible (scopes : Scopes) : Scopes := scopes.dropWhile (·.kind.isHidden)

/-- The words that some tokens end in, last first. -/
def trailingWords (ts : List Token) : List Token := ts.reverse.takeWhile (·.kind = .word)

/-- After the tokens `ts`: the scopes stand for the open braces, the names of the statement have been read
at the site of the innermost scope that is looked at, and the statement ends in the same words as the
tokens. -/
structure Placed (limit : Nat) (ts : List Token) (r : Reading) : Prop where
  nested : Nested limit ts (openBraces ts) r.scopes
  names : NamesAt limit ts r.scopes.visible.site r.statement
  words : r.scopes.isHidden = false → trailingWords r.statement = trailingWords ts

variable {limit : Nat} {ts us : List Token} {t : Token} {site : Site} {scopes : Scopes}

/-! ## Trailing words -/

theorem trailingWords_concat (ts : List Token) (t : Token) :
    trailingWords (ts ++ [t]) = if t.kind = .word then t :: trailingWords ts else [] := by
  rw [trailingWords, List.reverse_append, List.reverse_singleton, List.singleton_append,
    List.takeWhile_cons]
  simp [trailingWords]

theorem trailingWords_concat_of_isMark {text : String} (h : t.isMark text = true) (ts : List Token) :
    trailingWords (ts ++ [t]) = [] := by
  simp only [Token.isMark, Bool.and_eq_true, decide_eq_true_eq] at h
  simp [trailingWords_concat, h.1]

/-- The label test asks for the trailing words alone. -/
theorem labelAccess?_trailingWords (ts : List Token) :
    Reading.labelAccess? (trailingWords ts).reverse = Reading.labelAccess? ts := by
  have hnone : ∀ t : Token, t.kind ≠ .word → Reading.accessOf? t = none ∧ t.isName = false :=
    fun t h => by simp [Reading.accessOf?, Token.isName, h]
  unfold Reading.labelAccess? trailingWords
  rw [List.reverse_reverse]
  cases ts.reverse with
  | nil => rfl
  | cons last before =>
      by_cases hlast : last.kind = .word
      · cases before with
        | nil => simp [hlast]
        | cons word before =>
            by_cases hword : word.kind = .word
            · simp [hlast, hword]
            · simp [hlast, hword, (hnone word hword).1]
      · simp [hlast, hnone last hlast]

theorem labelAccess?_eq_of_trailingWords (h : trailingWords ts = trailingWords us) :
    Reading.labelAccess? ts = Reading.labelAccess? us := by
  rw [← labelAccess?_trailingWords ts, h, labelAccess?_trailingWords]

/-! ## Names that wait -/

theorem NamesAt.nil : NamesAt limit ts site [] := by
  simp [NamesAt]

theorem NamesAt.append {names : List Token} (h : NamesAt limit ts site names) :
    NamesAt limit (ts ++ us) site names := by
  intro n hn hname
  obtain ⟨i, hi, hsite⟩ := h n hn hname
  have hlt : i < ts.length := (List.getElem?_eq_some_iff.mp hi).1
  exact ⟨i, (List.getElem?_append_left hlt).trans hi, hsite.append (Nat.le_of_lt hlt)⟩

/-- The token that is read joins the names that wait at its site. -/
theorem NamesAt.concat {names : List Token} (h : NamesAt limit ts site names)
    (hsite : SiteAt limit ts ts.length site) : NamesAt limit (ts ++ [t]) site (names ++ [t]) := by
  intro n hn hname
  rcases List.mem_append.mp hn with hn | hn
  · exact h.append n hn hname
  · obtain rfl := List.mem_singleton.mp hn
    exact ⟨ts.length, by simp, hsite.append (Nat.le_refl _)⟩

theorem NamesAt.placeholder {names : List Token} {p : Token} (h : NamesAt limit ts site names)
    (hp : p.isName = false) : NamesAt limit ts site (names ++ [p]) := by
  intro n hn hname
  rcases List.mem_append.mp hn with hn | hn
  · exact h n hn hname
  · simp [List.mem_singleton.mp hn, hp] at hname

/-! ## Scopes and open braces -/

theorem Reading.opening_of_namespaceBody {r : Reading}
    (h : r.openedFrame.kind = .namespaceBody) : r.opening = .namespaceBody := by
  unfold openedFrame at h
  split at h <;> first | assumption | cases h

theorem Reading.opening_of_recordBody {r : Reading} {kind : RecordKind} {name : Option String}
    {access : Access} (h : r.openedFrame.kind = .recordBody kind name access) :
    ∃ named, r.opening = .record kind named ∧ name = named.map (·.text) ∧
      access = kind.defaultAccess := by
  unfold openedFrame at h
  split at h
  case h_2 named hopening =>
    cases h
    exact ⟨named, hopening, rfl, rfl⟩
  all_goals cases h

theorem Reading.openedFrame_unlabelled (r : Reading) : r.openedFrame.unlabelled = r.openedFrame := by
  unfold openedFrame
  cases r.opening <;> rfl

theorem Frame.isHidden_unlabelled (frame : Frame) :
    frame.unlabelled.kind.isHidden = frame.kind.isHidden := by
  obtain ⟨kind, declaration⟩ := frame
  cases kind <;> rfl

theorem Scopes.visible_of_not_isHidden (h : scopes.isHidden = false) : scopes.visible = scopes := by
  cases scopes with
  | nil => rfl
  | cons frame outer => rw [visible, List.dropWhile_cons_of_neg (by simpa [isHidden] using h)]

theorem Scopes.visible_cons_of_isHidden {frame : Frame} (h : frame.kind.isHidden = true) :
    Scopes.visible (frame :: scopes) = scopes.visible := by
  simp [visible, h]

/-- The innermost scope stands at the next token for what encloses it. -/
theorem Nested.siteAt (h : Nested limit ts (openBraces ts) scopes) :
    SiteAt limit ts ts.length scopes.site := by
  have henclosing := enclosingBrace?_length ts
  generalize openBraces ts = opened at h henclosing
  cases h with
  | outermost => exact .outermost henclosing
  | @inside j opened frame outer r index before opens inForce =>
      rw [List.head?_cons] at henclosing
      obtain ⟨kind, declaration⟩ := frame
      have hhidden := Frame.isHidden_unlabelled ⟨kind, declaration⟩
      rw [opens, Reading.isHidden_openedFrame] at hhidden
      have hkind := (congrArg Frame.kind opens).symm
      cases kind with
      | namespaceBody =>
          exact .namespaceBody henclosing before (Reading.opening_of_namespaceBody hkind)
      | recordBody kind name access =>
          obtain ⟨named, hopening, rfl, -⟩ := Reading.opening_of_recordBody hkind
          exact .recordBody henclosing before hopening (inForce _ _ _ rfl)
      | _ => exact .otherBody henclosing before hhidden

theorem Nested.append_of_no_label {opened : List Nat} (h : Nested limit ts opened scopes)
    (hno : ∀ j ∈ opened, ∀ access, ¬ LabelAt (ts ++ [t]) j ts.length access) :
    Nested limit (ts ++ [t]) opened scopes := by
  induction h with
  | outermost => exact .outermost
  | inside index before opens inForce hidden declaration rest ih =>
      exact .inside (by simp; omega) (before.append (Nat.le_of_lt index)) opens
        (fun kind name access hkind =>
          (inForce kind name access hkind).concat (hno _ List.mem_cons_self))
        hidden declaration.append (ih fun j hj => hno j (List.mem_cons_of_mem _ hj))

/-- A label stands directly inside of the innermost brace only. -/
theorem not_labelAt_of_mem_tail {j : Nat} (h : j ∈ (openBraces ts).tail) (access : Access) :
    ¬ LabelAt (ts ++ [t]) j ts.length access := by
  intro label
  have hhead := (labelAt_concat_iff.mp label).2.1
  obtain ⟨tail, htail⟩ := List.head?_eq_some_iff.mp hhead
  have hsorted := (openBraces_spec ts).1
  rw [htail] at hsorted h
  exact Nat.lt_irrefl j ((List.pairwise_cons.mp hsorted).1 j h)

theorem not_labelAt_of_not_isMark {j : Nat} (h : t.isMark ":" = false) (access : Access) :
    ¬ LabelAt (ts ++ [t]) j ts.length access := fun label => by
  simp [(labelAt_concat_iff.mp label).1] at h

/-- The scopes stay as they are with a token that sets no level in the innermost one. -/
theorem Nested.concat (h : Nested limit ts (openBraces ts) scopes)
    (hno : ∀ access record, scopes.site = .member access record → t.isMark ":" = true →
      Reading.labelAccess? ts = none) : Nested limit (ts ++ [t]) (openBraces ts) scopes := by
  have htail : ∀ j ∈ (openBraces ts).tail, ∀ access, ¬ LabelAt (ts ++ [t]) j ts.length access :=
    fun j hj access => not_labelAt_of_mem_tail hj access
  generalize openBraces ts = opened at h htail
  cases h with
  | outermost => exact .outermost
  | inside index before opens inForce hidden declaration rest =>
      refine .inside (by simp; omega) (before.append (Nat.le_of_lt index)) opens
        (fun kind name access hkind => ?_) hidden declaration.append (rest.append_of_no_label htail)
      refine (inForce kind name access hkind).concat fun level label => ?_
      obtain ⟨colon, -, hlabel⟩ := labelAt_concat_iff.mp label
      have hnone := hno access name (by simp [Scopes.site, hkind]) colon
      simp [labelAccess?_eq_some_iff.mpr hlabel] at hnone

namespace Reading

variable {r s : Reading} {found : List Occurrence}

/-! ## Labels -/

theorem endLabel?_eq_some (h : r.endLabel? = some s) :
    ∃ kind name access declaration outer,
      r.scopes = ⟨.recordBody kind name access, declaration⟩ :: outer ∧ s.statement = [] ∧
      ((∃ level, labelAccess? r.statement = some level ∧
          s.scopes = ⟨.recordBody kind name level, declaration⟩ :: outer) ∨
        labelAccess? r.statement = none ∧ s.scopes = r.scopes) := by
  have hstatement := (endLabel?_scopes h).1
  unfold endLabel? at h
  split at h
  case h_2 => cases h
  rename_i access name hsite
  obtain ⟨kind, declaration, outer, hscopes⟩ : ∃ kind declaration outer,
      r.scopes = ⟨.recordBody kind name access, declaration⟩ :: outer := by
    cases hscopes : r.scopes with
    | nil => simp [hscopes, Scopes.site] at hsite
    | cons frame outer =>
        obtain ⟨kind, declaration⟩ := frame
        cases kind <;> simp_all [Scopes.site]
  refine ⟨kind, name, access, declaration, outer, hscopes, hstatement, ?_⟩
  split at h
  · rename_i level hlevel
    cases h
    exact .inl ⟨level, hlevel, by simp [hscopes, Scopes.setAccess]⟩
  · rename_i hnone
    refine .inr ⟨hnone, ?_⟩
    split at h
    · split at h
      · cases h
        rfl
      · cases h
    · cases h

theorem labelAccess?_eq_none_of_endLabel? {access : Access} {record : Option String}
    (h : r.endLabel? = none) (hsite : r.scopes.site = .member access record) :
    labelAccess? r.statement = none := by
  unfold endLabel? at h
  rw [hsite] at h
  cases hlevel : labelAccess? r.statement with
  | none => rfl
  | some level => simp [hlevel] at h

/-! ## What one token does -/

theorem openedStatement_eq_nil (h : r.hidesBody = false) : r.openedStatement = [] := by
  unfold hidesBody at h
  unfold openedStatement
  split
  · rename_i hidden
    simp [opening, hidden] at h
  · cases hcase : r.opening <;> simp_all

theorem hidesBody_of_isHidden (h : r.scopes.isHidden = true) : r.hidesBody = true := by
  simp [hidesBody, opening, h]

theorem Step.nested (h : Step limit r t s found) (hr : Placed limit ts r)
    (hread : ReadBefore limit (ts ++ [t]) ts.length r) :
    Nested limit (ts ++ [t]) (openBraces (ts ++ [t])) s.scopes := by
  have hnested := hr.nested
  rw [openBraces_concat]
  cases h with
  | opens brace room =>
      have hcolon : t.isMark ":" = false := Token.not_isMark brace (by decide)
      rw [if_pos brace]
      refine .inside (by simp) hread r.openedFrame_unlabelled (fun kind name access hkind => ?_)
        (fun hidden => ?_) ?_ (hnested.concat fun _ _ _ colon => by simp [colon] at hcolon)
      · obtain ⟨-, -, -, rfl⟩ := opening_of_recordBody hkind
        exact .of_le (by simp)
      · rw [isHidden_openedFrame]
        exact hidesBody_of_isHidden hidden
      · cases hidden : r.scopes.isHidden with
        | true =>
            have hblock : r.openedFrame.declaration = [] := by simp [openedFrame, opening, hidden]
            rw [hblock]
            exact .nil
        | false =>
            have hnames := hr.names
            rw [Scopes.visible_of_not_isHidden hidden] at hnames
            rcases r.openedFrame_declaration with hdeclaration | hdeclaration <;> rw [hdeclaration]
            · exact hnames.append
            · exact .nil
  | closes brace open_ =>
      rename_i frame outer
      have hcolon : t.isMark ":" = false := Token.not_isMark brace (by decide)
      rw [if_neg (by simp [Token.not_opensBrace brace]), if_pos brace]
      rw [open_] at hnested
      generalize openBraces ts = opened at hnested
      cases hnested with
      | inside _ _ _ _ _ _ rest =>
          exact rest.append_of_no_label fun j _ access => not_labelAt_of_not_isMark hcolon access
  | passes ho hc hidden =>
      simp only [ho, hc, Bool.false_eq_true, if_false]
      refine hnested.concat fun access record hsite => ?_
      unfold Scopes.site at hsite
      unfold Scopes.isHidden at hidden
      split at hsite
      · cases hsite
      · split at hsite <;> simp_all [ScopeKind.isHidden]
  | ends semicolon visible =>
      have ho : t.opensBrace = false := Token.not_isMark semicolon (by decide)
      have hc : t.closesBrace = false := Token.not_isMark semicolon (by decide)
      have hcolon : t.isMark ":" = false := Token.not_isMark semicolon (by decide)
      simp only [ho, hc, Bool.false_eq_true, if_false]
      exact hnested.concat fun _ _ _ colon => by simp [colon] at hcolon
  | labels colon visible label =>
      have ho : t.opensBrace = false := Token.not_isMark colon (by decide)
      have hc : t.closesBrace = false := Token.not_isMark colon (by decide)
      have hwords := labelAccess?_eq_of_trailingWords (hr.words visible)
      simp only [ho, hc, Bool.false_eq_true, if_false]
      obtain ⟨kind, name, access, declaration, outer, hscopes, -, ⟨level, hlevel, hs⟩ | ⟨hnone, hs⟩⟩ :=
        endLabel?_eq_some label
      · -- The label sets the level of the innermost scope, which belongs to the innermost brace.
        have htail : ∀ j ∈ (openBraces ts).tail, ∀ access,
            ¬ LabelAt (ts ++ [t]) j ts.length access := fun j hj access =>
          not_labelAt_of_mem_tail hj access
        have hhead : ∀ j, (openBraces ts).head? = some j → LabelAt (ts ++ [t]) j ts.length level :=
          fun j hj => labelAt_concat_iff.mpr
            ⟨colon, hj, labelAccess?_eq_some_iff.mp (hwords ▸ hlevel)⟩
        rw [hs]
        rw [hscopes] at hnested
        generalize openBraces ts = opened at hnested htail hhead
        cases hnested with
        | inside index before opens inForce hidden hdeclaration rest =>
            refine .inside (by simp; omega) (before.append (Nat.le_of_lt index)) opens
              (fun kind' name' access' hkind => ?_) hidden hdeclaration.append
              (rest.append_of_no_label htail)
            cases hkind
            exact .of_labelAt_concat (hhead _ rfl)
      · rw [hs]
        exact hnested.concat fun _ _ _ _ => hwords ▸ hnone
  | continues ho hc visible notEnd notLabel =>
      have hwords := labelAccess?_eq_of_trailingWords (hr.words visible)
      simp only [ho, hc, Bool.false_eq_true, if_false]
      exact hnested.concat fun _ _ hsite colon =>
        hwords ▸ labelAccess?_eq_none_of_endLabel? (notLabel colon) hsite

theorem Step.namesAt (h : Step limit r t s found) (hr : Placed limit ts r) :
    NamesAt limit (ts ++ [t]) s.scopes.visible.site s.statement := by
  have hnames := hr.names
  cases h with
  | opens brace room =>
      cases hides : r.hidesBody with
      | true =>
          rw [Scopes.visible_cons_of_isHidden (r.isHidden_openedFrame.trans hides)]
          rcases r.openedStatement_cases with h | ⟨h, -⟩ <;> rw [h]
          · exact .nil
          · exact hnames.append
      | false =>
          rw [openedStatement_eq_nil hides]
          exact .nil
  | closes brace open_ =>
      rename_i frame outer
      have hnested := hr.nested
      rw [open_] at hnested hnames
      generalize openBraces ts = opened at hnested
      cases hnested with
      | inside _ _ _ _ hhidden hdeclaration _ =>
          unfold closedStatement
          split
          · rename_i hidden
            rw [Scopes.visible_cons_of_isHidden (hhidden hidden)] at hnames
            exact hnames.append
          · rename_i hvisible
            have houter := Scopes.visible_of_not_isHidden (Bool.not_eq_true _ ▸ hvisible)
            have hgroup : ∀ kind : TokenKind, kind ≠ .word →
                Token.isName { t with kind := kind } = false := fun kind h => by
              simp [Token.isName, h]
            cases hkind : frame.kind with
            | initializer =>
                have hhides : frame.kind.isHidden = true := by rw [hkind]; rfl
                rw [Scopes.visible_cons_of_isHidden hhides] at hnames
                exact hnames.append.placeholder (hgroup .group (by decide))
            | recordBody kind name access =>
                rw [houter]
                exact hdeclaration.append.placeholder (hgroup .body (by decide))
            | enumBody =>
                rw [houter]
                exact hdeclaration.append.placeholder (hgroup .body (by decide))
            | _ => exact .nil
  | passes ho hc hidden => exact hnames.append
  | ends semicolon visible => exact .nil
  | labels colon visible label =>
      rw [(endLabel?_scopes label).1]
      exact .nil
  | continues ho hc visible notEnd notLabel =>
      rw [Scopes.visible_of_not_isHidden visible] at hnames
      simp only [push, Scopes.visible_of_not_isHidden visible]
      exact hnames.concat hr.nested.siteAt

theorem Step.trailingWords_eq (h : Step limit r t s found) (hr : Placed limit ts r)
    (hvisible : s.scopes.isHidden = false) : trailingWords s.statement = trailingWords (ts ++ [t]) := by
  have hnil : trailingWords [] = [] := rfl
  cases h with
  | opens brace room =>
      have hides : r.hidesBody = false := r.isHidden_openedFrame.symm.trans hvisible
      rw [trailingWords_concat_of_isMark brace, openedStatement_eq_nil hides, hnil]
  | closes brace open_ =>
      rename_i frame outer
      rw [trailingWords_concat_of_isMark brace]
      simp only [closedStatement, hvisible, Bool.false_eq_true, if_false]
      cases frame.kind <;> simp [trailingWords_concat, hnil]
  | passes ho hc hidden => simp [hidden] at hvisible
  | ends semicolon visible => rw [trailingWords_concat_of_isMark semicolon, endStatement, hnil]
  | labels colon visible label =>
      rw [trailingWords_concat_of_isMark colon, (endLabel?_scopes label).1, hnil]
  | continues ho hc visible notEnd notLabel =>
      rw [push, trailingWords_concat, trailingWords_concat, hr.words visible]

/-- Every token keeps the scopes and the statement in agreement with the tokens behind. -/
theorem Step.placed (h : Step limit r t s found) (hr : Placed limit ts r)
    (hread : ReadBefore limit (ts ++ [t]) ts.length r) : Placed limit (ts ++ [t]) s where
  nested := h.nested hr hread
  names := h.namesAt hr
  words := h.trailingWords_eq hr

/-! ## Names that are found -/

theorem site_ne_hidden (h : r.scopes.isHidden = false) : r.scopes.site ≠ .hidden := by
  unfold Scopes.isHidden at h
  unfold Scopes.site
  split at h
  · simp
  · rename_i frame outer _
    cases hkind : frame.kind <;> simp_all [ScopeKind.isHidden]

theorem admits_of_context? {entity : Entity} {context : Context}
    (h : site.context? entity = some context) : site.Admits context := by
  cases site with
  | global =>
      cases h
      exact .global entity
  | member access record =>
      cases h
      exact .member access record entity
  | hidden => cases h

theorem openedName?_admits {o : Occurrence} (h : r.openedName? = some o) :
    r.scopes.isHidden = false ∧ r.scopes.site.Admits o.context := by
  cases hidden : r.scopes.isHidden with
  | true => simp [openedName?, opening, hidden] at h
  | false =>
      have hsite := site_ne_hidden hidden
      refine ⟨rfl, ?_⟩
      unfold openedName? at h
      split at h
      · rename_i kind name _
        obtain ⟨context, hcontext, h⟩ := Option.bind_eq_some_iff.mp h
        obtain ⟨n, -, rfl⟩ := Option.map_eq_some_iff.mp h
        refine .type hsite ?_
        cases kind <;> cases hcontext <;> simp [Occurrence.ofToken]
      · obtain ⟨n, -, rfl⟩ := Option.map_eq_some_iff.mp h
        exact .type hsite (by simp [Occurrence.ofToken])
      · obtain ⟨context, hcontext, h⟩ := Option.bind_eq_some_iff.mp h
        obtain ⟨n, -, rfl⟩ := Option.map_eq_some_iff.mp h
        exact admits_of_context? hcontext
      all_goals cases h

theorem foundAt_of_mem_statement (hr : Placed limit ts r) (visible : r.scopes.isHidden = false)
    {n : Token} (hn : n ∈ r.statement) (hname : n.isName = true) {o : Occurrence}
    (htext : o.name = n.text) (hplace : o.place = n.place) (hadmits : r.scopes.site.Admits o.context) :
    ∃ i, FoundAt limit ts i o := by
  obtain ⟨i, hi, hsite⟩ := hr.names n hn hname
  rw [Scopes.visible_of_not_isHidden visible] at hsite
  exact ⟨i, ⟨n, hi, hname, htext.symm, hplace.symm⟩, _, hsite, hadmits⟩

/-- The names that a token makes known are found in the contexts that their places ask for. -/
theorem Step.foundAt (h : Step limit r t s found) (hr : Placed limit ts r) :
    ∀ o ∈ found, ∃ i, FoundAt limit ts i o := by
  intro o ho
  cases h with
  | opens brace room =>
      have ho := Option.mem_toList.mp ho
      obtain ⟨n, hn, hname, htext, hplace⟩ := openedName?_eq_some ho
      obtain ⟨visible, hadmits⟩ := openedName?_admits ho
      exact foundAt_of_mem_statement hr visible hn hname htext hplace hadmits
  | ends semicolon visible =>
      obtain ⟨hsub, hisName⟩ := classifyStatement_names r.statement r.scopes.site
      obtain ⟨d, hd, hoccurrence⟩ := List.mem_filterMap.mp ho
      obtain ⟨context, hcontext, rfl⟩ := Option.map_eq_some_iff.mp hoccurrence
      exact foundAt_of_mem_statement hr visible (hsub.mem (List.mem_map_of_mem hd)) (hisName d hd) rfl rfl
        (admits_of_context? hcontext)
  | closes => cases ho
  | passes => cases ho
  | labels => cases ho
  | continues => cases ho

end Reading

theorem FoundAt.append {i : Nat} {o : Occurrence} (h : FoundAt limit ts i o) :
    FoundAt limit (ts ++ us) i o := by
  obtain ⟨⟨n, hi, hn⟩, site, hsite, hadmits⟩ := h
  have hlt : i < ts.length := (List.getElem?_eq_some_iff.mp hi).1
  exact ⟨⟨n, (List.getElem?_append_left hlt).trans hi, hn⟩, site,
    hsite.append (Nat.le_of_lt hlt), hadmits⟩

theorem placed_start (limit : Nat) : Placed limit [] {} where
  nested := .outermost
  names := .nil
  words _ := rfl

/-- All that is found from a state of reading on is found where the tokens before and after say. -/
theorem foundAt_extractFrom {r : Reading} {known : List Occurrence} (hr : Placed limit ts r)
    (hrun : Reading.run limit {} ts = .ok (r, known)) :
    ∀ o ∈ (extractFrom limit r us).found, ∃ i, FoundAt limit (ts ++ us) i o := by
  induction us generalizing ts r known with
  | nil => simp [extractFrom]
  | cons t us ih =>
      intro o ho
      cases hstep : r.step limit t with
      | error e => simp [extractFrom, hstep] at ho
      | ok p =>
          obtain ⟨s, found⟩ := p
          have h := Reading.Step.of_step_eq hstep
          have hread : ReadBefore limit (ts ++ [t]) ts.length r := ⟨known, by simpa using hrun⟩
          rw [h.extractFrom_cons] at ho
          rcases List.mem_append.mp ho with ho | ho
          · obtain ⟨i, hi⟩ := h.foundAt hr o ho
            exact ⟨i, hi.append⟩
          · obtain ⟨i, hi⟩ := ih (h.placed hr hread) (Reading.run_append hrun h.run_singleton) o ho
            exact ⟨i, by simpa using hi⟩

theorem foundAt_extract (text : String) (limit : Nat) :
    ∀ o ∈ (extract text limit).found, ∃ i, FoundAt limit (tokens text) i o := by
  intro o ho
  have hfound : ∃ i, FoundAt limit ([] ++ tokens text) i o :=
    foundAt_extractFrom (placed_start limit) Reading.run_nil o ho
  simpa using hfound

/-- A name is found in the context that its site admits: a function or variable outside of all braces and in
namespaces and linkage blocks is global, and one directly in the body of a record has the access level that
the last label in that body before it has set. No name directly in another body is found. -/
theorem found_site (text : String) (limit : Nat) :
    (∀ o ∈ (extract text limit).found, ∃ i n, (tokens text)[i]? = some n ∧ n.text = o.name ∧
      n.place = o.place ∧ ∃ site, SiteAt limit (tokens text) i site ∧ site.Admits o.context) ∧
    (∀ i n, (tokens text)[i]? = some n → SiteAt limit (tokens text) i .hidden →
      ∀ o ∈ (extract text limit).found, o.place ≠ n.place) := by
  refine ⟨fun o ho => ?_, fun i n hi hidden o ho hplace => ?_⟩
  · obtain ⟨i, ⟨n, hi, -, htext, hplace⟩, hcontext⟩ := foundAt_extract text limit o ho
    exact ⟨i, n, hi, htext, hplace, hcontext⟩
  · obtain ⟨k, ⟨m, hk, -, -, hplace'⟩, site, hsite, hadmits⟩ := foundAt_extract text limit o ho
    obtain ⟨hilt, rfl⟩ := List.getElem?_eq_some_iff.mp hi
    obtain ⟨hklt, rfl⟩ := List.getElem?_eq_some_iff.mp hk
    obtain rfl := (tokens_inOrder text).index_unique hklt hilt (hplace'.trans hplace)
    obtain rfl := hsite.unique hidden
    cases hadmits with
    | type visible => exact visible rfl

theorem found_site_after_label :
    ⟨.member .isPublic .function, "f", ⟨1, 31⟩⟩ ∈
        (extract "class A \x7b int x; public: void f(); \x7d;").found ∧
      ∃ i n, (tokens "class A \x7b int x; public: void f(); \x7d;")[i]? = some n ∧ n.text = "f" ∧
        ∃ site, SiteAt defaultDepthLimit (tokens "class A \x7b int x; public: void f(); \x7d;") i site ∧
          site.Admits (.member .isPublic .function) := by
  have hfound : ⟨.member .isPublic .function, "f", ⟨1, 31⟩⟩ ∈
      (extract "class A \x7b int x; public: void f(); \x7d;").found := by
    decide +kernel
  obtain ⟨i, n, hi, htext, -, hsite⟩ := (found_site _ _).1 _ hfound
  exact ⟨hfound, i, n, hi, htext, hsite⟩

end NameLint.Declaration
