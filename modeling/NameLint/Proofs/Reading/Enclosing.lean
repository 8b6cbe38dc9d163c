import Mathlib.Data.List.Induction
import NameLint.Proofs.Reading.Braces

/-!
# What encloses a token

The braces that are open at a token, the access labels that stand directly between a pair of braces, and
the site that a token has by them. All are read off the tokens alone, but for what a brace belongs to: that
is decided by the statement before it.
-/

namespace NameLint.Declaration

open NameLint.Source

/-! ## Open braces -/

/-- The indices of the braces that are open after some tokens, innermost first. -/
def openBraces (ts : List Token) : List Nat :=
  ts.zipIdx.foldl
    (fun opened (t, i) =>
      if t.opensBrace then i :: opened else if t.closesBrace then opened.tail else opened)
    []

/-- The index of the innermost brace that is open at a token, if there is one. -/
def enclosingBrace? (ts : List Token) (i : Nat) : Option Nat := (openBraces (ts.take i)).head?

variable {limit : Nat} {ts us : List Token} {t : Token} {i j k : Nat} {access start : Access}

theorem openBraces_concat (ts : List Token) (t : Token) :
    openBraces (ts ++ [t]) =
      if t.opensBrace then ts.length :: openBraces ts
      else if t.closesBrace then (openBraces ts).tail else openBraces ts := by
  simp [openBraces, List.zipIdx_append]

/-- Braces further out stand further in front. -/
theorem openBraces_spec (ts : List Token) :
    (openBraces ts).Pairwise (· > ·) ∧ ∀ j ∈ openBraces ts, j < ts.length := by
  induction ts using List.reverseRecOn with
  | nil => exact ⟨.nil, by simp [openBraces]⟩
  | append_singleton ts t ih =>
      obtain ⟨hsorted, hlt⟩ := ih
      rw [openBraces_concat, List.length_append, List.length_singleton]
      split
      · exact ⟨List.pairwise_cons.mpr ⟨hlt, hsorted⟩,
          List.forall_mem_cons.mpr ⟨Nat.lt_succ_self _, fun j hj => Nat.lt_succ_of_lt (hlt j hj)⟩⟩
      split
      · exact ⟨hsorted.tail, fun j hj => Nat.lt_succ_of_lt (hlt j (List.mem_of_mem_tail hj))⟩
      · exact ⟨hsorted, fun j hj => Nat.lt_succ_of_lt (hlt j hj)⟩

theorem enclosingBrace?_append (h : i ≤ ts.length) :
    enclosingBrace? (ts ++ us) i = enclosingBrace? ts i := by
  rw [enclosingBrace?, List.take_append_of_le_length h, enclosingBrace?]

theorem enclosingBrace?_length (ts : List Token) :
    enclosingBrace? ts ts.length = (openBraces ts).head? := by
  rw [enclosingBrace?, List.take_length]

theorem lt_of_enclosingBrace? (h : enclosingBrace? ts i = some j) : j < i ∧ j < ts.length := by
  have hlt := (openBraces_spec (ts.take i)).2 j (List.mem_of_head? h)
  rw [List.length_take] at hlt
  omega

/-! ## Access labels -/

/-- Some tokens end in an access keyword, or in one and a name after it: with a colon behind them they end
in an access label. -/
inductive EndsInLabel : List Token → Access → Prop
  | keyword {before : List Token} {word : Token} {access : Access}
      (sets : Reading.accessOf? word = some access) : EndsInLabel (before ++ [word]) access
  | named {before : List Token} {word name : Token} {access : Access}
      (sets : Reading.accessOf? word = some access) (isName : name.isName = true) :
      EndsInLabel (before ++ [word, name]) access

/-- The token at index `k` is a colon directly inside of the brace at index `j`, and ends an access label. -/
structure LabelAt (ts : List Token) (j k : Nat) (access : Access) : Prop where
  colon : ts[k]?.any (·.isMark ":") = true
  inside : enclosingBrace? ts k = some j
  label : EndsInLabel (ts.take k) access

/-- The access level in force at index `i` directly inside of the brace at index `j`: that of the last
label before, or the one at the start if there is none. -/
inductive InForce (ts : List Token) (j i : Nat) (start : Access) : Access → Prop
  | unlabelled (none : ∀ k < i, ∀ access, ¬ LabelAt ts j k access) : InForce ts j i start start
  | labelled {k : Nat} {access : Access} (before : k < i) (label : LabelAt ts j k access)
      (last : ∀ l, k < l → l < i → ∀ access, ¬ LabelAt ts j l access) : InForce ts j i start access

theorem accessOf?_eq_none_of_isName (h : t.isName = true) : Reading.accessOf? t = none := by
  simp only [Token.isName, Bool.and_eq_true, decide_eq_true_eq, Bool.not_eq_true'] at h
  unfold Reading.accessOf? Access.ofKeyword?
  rw [if_pos h.1]
  split
  · rename_i heq
    exact absurd (heq ▸ h.2) (by decide)
  · rename_i heq
    exact absurd (heq ▸ h.2) (by decide)
  · rename_i heq
    exact absurd (heq ▸ h.2) (by decide)
  · rfl

/-- The label test of a statement asks for the two last tokens alone. -/
theorem labelAccess?_eq_some_iff :
    Reading.labelAccess? ts = some access ↔ EndsInLabel ts access := by
  constructor
  · intro h
    unfold Reading.labelAccess? at h
    split at h
    · cases h
    rename_i last before hreverse
    have hts : ts = before.reverse ++ [last] := by
      rw [← List.reverse_reverse ts, hreverse, List.reverse_cons]
    cases hlast : Reading.accessOf? last with
    | some level =>
        obtain rfl : level = access := by simpa [hlast] using h
        rw [hts]
        exact .keyword hlast
    | none =>
        obtain ⟨hname, word, hhead, hword⟩ : last.isName = true ∧
            ∃ word, before.head? = some word ∧ Reading.accessOf? word = some access := by
          simpa [hlast, Option.bind_eq_some_iff] using h
        obtain ⟨earlier, rfl⟩ := List.head?_eq_some_iff.mp hhead
        rw [hts, List.reverse_cons, List.append_assoc]
        exact .named hword hname
  · intro h
    cases h with
    | keyword sets => simp [Reading.labelAccess?, sets]
    | named sets isName =>
        simp [Reading.labelAccess?, accessOf?_eq_none_of_isName isName, isName, sets]

theorem EndsInLabel.unique {access' : Access} (h : EndsInLabel ts access)
    (h' : EndsInLabel ts access') : access = access' :=
  Option.some.inj ((labelAccess?_eq_some_iff.mpr h).symm.trans (labelAccess?_eq_some_iff.mpr h'))

theorem labelAt_append_iff (h : k < ts.length) :
    LabelAt (ts ++ us) j k access ↔ LabelAt ts j k access := by
  have hcolon : (ts ++ us)[k]? = ts[k]? := List.getElem?_append_left h
  have hinside : enclosingBrace? (ts ++ us) k = enclosingBrace? ts k :=
    enclosingBrace?_append (Nat.le_of_lt h)
  have htake : (ts ++ us).take k = ts.take k := List.take_append_of_le_length (Nat.le_of_lt h)
  constructor
  · rintro ⟨colon, inside, label⟩
    exact ⟨hcolon ▸ colon, hinside ▸ inside, htake ▸ label⟩
  · rintro ⟨colon, inside, label⟩
    exact ⟨hcolon ▸ colon, hinside ▸ inside, htake ▸ label⟩

theorem labelAt_concat_iff :
    LabelAt (ts ++ [t]) j ts.length access ↔
      t.isMark ":" = true ∧ (openBraces ts).head? = some j ∧ EndsInLabel ts access := by
  have hinside : enclosingBrace? (ts ++ [t]) ts.length = (openBraces ts).head? := by
    rw [enclosingBrace?_append (Nat.le_refl _), enclosingBrace?_length]
  constructor
  · rintro ⟨colon, inside, label⟩
    exact ⟨by simpa using colon, hinside ▸ inside, by simpa using label⟩
  · rintro ⟨colon, inside, label⟩
    exact ⟨by simpa using colon, hinside.trans inside, by simpa using label⟩

theorem InForce.append (h : InForce ts j i start access) (hi : i ≤ ts.length) :
    InForce (ts ++ us) j i start access := by
  cases h with
  | unlabelled none =>
      exact .unlabelled fun k hk access label =>
        none k hk access ((labelAt_append_iff (by omega)).mp label)
  | labelled before label last =>
      exact .labelled before ((labelAt_append_iff (by omega)).mpr label) fun l hl hi access label =>
        last l hl hi access ((labelAt_append_iff (by omega)).mp label)

/-- A token that ends no label directly inside of the brace leaves the level as it is. -/
theorem InForce.concat (h : InForce ts j ts.length start access)
    (hno : ∀ access, ¬ LabelAt (ts ++ [t]) j ts.length access) :
    InForce (ts ++ [t]) j (ts ++ [t]).length start access := by
  rw [List.length_append, List.length_singleton]
  cases h with
  | unlabelled none =>
      refine .unlabelled fun k hk access label => ?_
      rcases Nat.lt_succ_iff_lt_or_eq.mp hk with hlt | rfl
      · exact none k hlt access ((labelAt_append_iff hlt).mp label)
      · exact hno access label
  | labelled before label last =>
      refine .labelled (Nat.lt_succ_of_lt before) ((labelAt_append_iff before).mpr label)
        fun l hl hi access label => ?_
      rcases Nat.lt_succ_iff_lt_or_eq.mp hi with hlt | rfl
      · exact last l hl hlt access ((labelAt_append_iff hlt).mp label)
      · exact hno access label

theorem InForce.of_labelAt_concat (h : LabelAt (ts ++ [t]) j ts.length access) :
    InForce (ts ++ [t]) j (ts ++ [t]).length start access := by
  rw [List.length_append, List.length_singleton]
  exact .labelled (Nat.lt_succ_self _) h fun l hl hi => by omega

/-- No label stands inside of a brace in front of it. -/
theorem InForce.of_le (h : i ≤ j + 1) : InForce ts j i start start :=
  .unlabelled fun k hk access label => by
    have := (lt_of_enclosingBrace? label.inside).1
    omega

theorem InForce.unique {access' : Access} (h : InForce ts j i start access)
    (h' : InForce ts j i start access') : access = access' := by
  cases h with
  | unlabelled none =>
      cases h' with
      | unlabelled => rfl
      | labelled before label last => exact absurd label (none _ before _)
  | labelled before label last =>
      rename_i k
      cases h' with
      | unlabelled none => exact absurd label (none _ before _)
      | labelled before' label' last' =>
          rename_i k'
          rcases Nat.lt_trichotomy k k' with hlt | rfl | hlt
          · exact absurd label' (last k' hlt before' _)
          · exact label.label.unique label'.label
          · exact absurd label (last' k hlt before _)

/-! ## Sites -/

/-- `r` is the state of reading in front of the token at index `i`. -/
def ReadBefore (limit : Nat) (ts : List Token) (i : Nat) (r : Reading) : Prop :=
  ∃ found, Reading.run limit {} (ts.take i) = .ok (r, found)

/-- The site of the token at index `i`, by the innermost brace that is open there: what the brace belongs
to, and in the body of a record the access level in force. -/
inductive SiteAt (limit : Nat) (ts : List Token) (i : Nat) : Site → Prop
  | outermost (enclosing : enclosingBrace? ts i = none) : SiteAt limit ts i .global
  | namespaceBody {j : Nat} {r : Reading} (enclosing : enclosingBrace? ts i = some j)
      (before : ReadBefore limit ts j r) (opening : r.opening = .namespaceBody) :
      SiteAt limit ts i .global
  | recordBody {j : Nat} {r : Reading} {kind : RecordKind} {name : Option Token} {access : Access}
      (enclosing : enclosingBrace? ts i = some j) (before : ReadBefore limit ts j r)
      (opening : r.opening = .record kind name)
      (inForce : InForce ts j i kind.defaultAccess access) :
      SiteAt limit ts i (.member access (name.map (·.text)))
  | otherBody {j : Nat} {r : Reading} (enclosing : enclosingBrace? ts i = some j)
      (before : ReadBefore limit ts j r) (opening : r.hidesBody = true) : SiteAt limit ts i .hidden

theorem ReadBefore.append {r : Reading} (h : ReadBefore limit ts i r) (hi : i ≤ ts.length) :
    ReadBefore limit (ts ++ us) i r := by
  rw [ReadBefore, List.take_append_of_le_length hi]
  exact h

theorem ReadBefore.unique {r s : Reading} (h : ReadBefore limit ts i r)
    (h' : ReadBefore limit ts i s) : r = s := by
  obtain ⟨found, h⟩ := h
  obtain ⟨found', h'⟩ := h'
  rw [h] at h'
  cases h'
  rfl

theorem SiteAt.append {site : Site} (h : SiteAt limit ts i site) (hi : i ≤ ts.length) :
    SiteAt limit (ts ++ us) i site := by
  have henclosing : enclosingBrace? (ts ++ us) i = enclosingBrace? ts i := enclosingBrace?_append hi
  cases h with
  | outermost enclosing => exact .outermost (henclosing.trans enclosing)
  | namespaceBody enclosing before opening =>
      have hj := (lt_of_enclosingBrace? enclosing).2
      exact .namespaceBody (henclosing.trans enclosing) (before.append (Nat.le_of_lt hj)) opening
  | recordBody enclosing before opening inForce =>
      have hj := (lt_of_enclosingBrace? enclosing).2
      exact .recordBody (henclosing.trans enclosing) (before.append (Nat.le_of_lt hj)) opening
        (inForce.append hi)
  | otherBody enclosing before opening =>
      have hj := (lt_of_enclosingBrace? enclosing).2
      exact .otherBody (henclosing.trans enclosing) (before.append (Nat.le_of_lt hj)) opening

/-- What the innermost brace belongs to decides the site. -/
theorem SiteAt.cases_of_enclosing {r : Reading} {site : Site} (h : SiteAt limit ts i site)
    (enclosing : enclosingBrace? ts i = some j) (before : ReadBefore limit ts j r) :
    (r.opening = .namespaceBody ∧ site = .global) ∨
      (∃ kind name access, r.opening = .record kind name ∧
        InForce ts j i kind.defaultAccess access ∧ site = .member access (name.map (·.text))) ∨
      (r.hidesBody = true ∧ site = .hidden) := by
  cases h with
  | outermost none => simp [enclosing] at none
  | namespaceBody enclosing' before' opening =>
      cases enclosing.symm.trans enclosing'
      exact .inl ⟨before.unique before' ▸ opening, rfl⟩
  | recordBody enclosing' before' opening inForce =>
      cases enclosing.symm.trans enclosing'
      exact .inr (.inl ⟨_, _, _, before.unique before' ▸ opening, inForce, rfl⟩)
  | otherBody enclosing' before' opening =>
      cases enclosing.symm.trans enclosing'
      exact .inr (.inr ⟨before.unique before' ▸ opening, rfl⟩)

/-- A token has one site. -/
theorem SiteAt.unique {site site' : Site} (h : SiteAt limit ts i site)
    (h' : SiteAt limit ts i site') : site = site' := by
  cases h' with
  | outermost none =>
      cases h with
      | outermost => rfl
      | _ enclosing => simp [none] at enclosing
  | namespaceBody enclosing before opening =>
      rcases h.cases_of_enclosing enclosing before with
        ⟨-, rfl⟩ | ⟨kind, name, level, hrecord, -⟩ | ⟨hides, -⟩
      · rfl
      · simp [opening] at hrecord
      · simp [Reading.hidesBody, opening] at hides
  | recordBody enclosing before opening inForce =>
      rcases h.cases_of_enclosing enclosing before with
        ⟨hnamespace, -⟩ | ⟨kind, name, level, hrecord, inForce', rfl⟩ | ⟨hides, -⟩
      · simp [opening] at hnamespace
      · cases opening.symm.trans hrecord
        rw [inForce.unique inForce']
      · simp [Reading.hidesBody, opening] at hides
  | otherBody enclosing before opening =>
      rcases h.cases_of_enclosing enclosing before with
        ⟨hnamespace, -⟩ | ⟨kind, name, level, hrecord, -⟩ | ⟨-, rfl⟩
      · simp [Reading.hidesBody, hnamespace] at opening
      · simp [Reading.hidesBody, hrecord] at opening
      · rfl

end NameLint.Declaration
