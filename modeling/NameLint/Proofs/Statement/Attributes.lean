import NameLint.Proofs.Statement.Groups

/-!
# Attributes

Attributes are dropped from a statement before it is looked at. From tokens with closed brackets these are whole
groups, so that tokens with closed brackets are left, the same brackets are open behind them, and no parenthesis
comes to stand in front of a value.
-/

namespace NameLint.Declaration

open NameLint.Source

variable {angled : Bool} {p q : Token → Bool} {ts us inner : List Token} {t opening closing : Token}
  {n : Nesting} {m : Marked}

/-! ## Groups -/

section SplitGroup

variable {o c : String}

/-- The texts of a pair of parentheses or of square brackets. -/
def bracketTexts : List (String × String) := [("(", ")"), ("[", "]")]

theorem not_isMark_of_isBracket (h : isBracket angled t = false) (hpair : (o, c) ∈ bracketTexts) :
    t.isMark o = false ∧ t.isMark c = false := by
  simp only [isBracket, Bool.or_eq_false_iff] at h
  simp only [bracketTexts, List.mem_cons, Prod.mk.injEq, List.not_mem_nil, or_false] at hpair
  rcases hpair with ⟨rfl, rfl⟩ | ⟨rfl, rfl⟩ <;> simp [h]

/-- A pair of brackets is one with the given texts, or has nothing to do with them. -/
theorem isBracketPair_cases (h : isBracketPair opening closing = true) (hpair : (o, c) ∈ bracketTexts) :
    opening.isMark o = true ∧ closing.isMark o = false ∧ closing.isMark c = true ∨
      (opening.isMark o = false ∧ opening.isMark c = false) ∧
        closing.isMark o = false ∧ closing.isMark c = false := by
  simp only [isBracketPair, Bool.or_eq_true, Bool.and_eq_true] at h
  simp only [bracketTexts, List.mem_cons, Prod.mk.injEq, List.not_mem_nil, or_false] at hpair
  rcases hpair with ⟨rfl, rfl⟩ | ⟨rfl, rfl⟩ <;> rcases h with ⟨ho, hc⟩ | ⟨ho, hc⟩ <;>
    simp [ho, hc, Token.not_isMark ho, Token.not_isMark hc]

/-- Tokens with closed brackets close what they open. -/
theorem Bracketed.closesMarks_append (h : Bracketed angled p ts) (hpair : (o, c) ∈ bracketTexts) (depth : Nat)
    (us : List Token) : closesMarks o c depth (ts ++ us) = closesMarks o c depth us := by
  induction h generalizing us depth with
  | nil => rfl
  | token allowed plain more ih =>
      obtain ⟨ho, hc⟩ := not_isMark_of_isBracket plain hpair
      simp only [List.cons_append, closesMarks, ho, hc, ih, Bool.false_eq_true, if_false]
  | group allowed pair inside more ihInside ih =>
      simp only [List.append_assoc, List.cons_append, closesMarks, ihInside]
      rcases isBracketPair_cases pair hpair with ⟨ho, hco, hcc⟩ | ⟨⟨hoo, hoc⟩, hco, hcc⟩
      · simp [ho, hco, hcc, ih]
      · simp [hoo, hoc, hco, hcc, ih]
  | arguments allowed opens closes inside more ihInside ih =>
      have hopens := not_isMark_of_isBracket (isBracket_false_of_isMark opens (by decide)) hpair
      have hcloses := not_isMark_of_isBracket (isBracket_false_of_isMark closes (by decide)) hpair
      simp only [List.append_assoc, List.cons_append, closesMarks, ihInside]
      simp [hopens, hcloses, ih]

theorem Bracketed.closesMarks (h : Bracketed angled p ts) (hpair : (o, c) ∈ bracketTexts) :
    closesMarks o c 0 ts = true := by
  rw [← List.append_nil ts, h.closesMarks_append hpair]
  rfl

theorem Bracketed.splitGroup_closing (inside : Bracketed angled p inner)
    (hpair : (o, c) ∈ bracketTexts) (ho : closing.isMark o = false) (hc : closing.isMark c = true)
    (ts : List Token) :
    splitGroup o c 1 (inner ++ closing :: ts) = (inner ++ [closing], ts) :=
  splitGroup_of_closesMarks (inside.closesMarks hpair) ho hc ts

end SplitGroup

/-! ## What is dropped -/

theorem normalize_append_of_forall (h : ∀ t ∈ ts, ∀ next, beginsDropped t next = false) (us : List Token) :
    normalize (ts ++ us) = ts ++ normalize us := by
  induction ts with
  | nil => rfl
  | cons t ts ih =>
      obtain ⟨ht, hts⟩ := List.forall_mem_cons.mp h
      rw [List.cons_append, normalize_cons fun next _ => ht next, ih hts, List.cons_append]

/-- No template header begins in the tokens. -/
def Headerless (ts : List Token) : Prop :=
  ts.IsChain fun t next => (t.isWord "template" && next.isMark "<") = false

instance (ts : List Token) : Decidable (Headerless ts) := inferInstanceAs (Decidable (ts.IsChain _))

/-- What may be left of tokens with closed brackets when attributes are dropped from them: whole groups go, and
with some of them the word in front. -/
inductive Thinned : Bool → (Token → Bool) → List Token → List Token → Prop
  | nil {angled : Bool} {p : Token → Bool} : Thinned angled p [] []
  | token {angled : Bool} {p : Token → Bool} {t : Token} {ts kept : List Token} (allowed : p t = true)
      (plain : isBracket angled t = false) (more : Thinned angled p ts kept) :
      Thinned angled p (t :: ts) (t :: kept)
  | group {angled : Bool} {p : Token → Bool} {opening closing : Token} {inner kept ts more : List Token}
      (allowed : p opening = true) (pair : isBracketPair opening closing = true)
      (inside : Thinned false (fun _ => true) inner kept) (after : Thinned angled p ts more) :
      Thinned angled p (opening :: inner ++ closing :: ts) (opening :: kept ++ closing :: more)
  | arguments {p : Token → Bool} {opening closing : Token} {inner kept ts more : List Token}
      (allowed : p opening = true) (opens : opening.isMark "<" = true) (closes : closing.isMark ">" = true)
      (inside : Thinned true (fun _ => true) inner kept) (after : Thinned true p ts more) :
      Thinned true p (opening :: inner ++ closing :: ts) (opening :: kept ++ closing :: more)
  | squareAttribute {angled : Bool} {p : Token → Bool} {opening closing : Token} {inner ts more : List Token}
      (allowed : p opening = true) (pair : isBracketPair opening closing = true)
      (inside : Bracketed false (fun _ => true) inner) (after : Thinned angled p ts more) :
      Thinned angled p (opening :: inner ++ closing :: ts) more
  | wordAttribute {angled : Bool} {p : Token → Bool} {t opening closing : Token} {inner ts more : List Token}
      (word : t.kind = .word) (allowed : p opening = true) (pair : isBracketPair opening closing = true)
      (inside : Bracketed false (fun _ => true) inner) (after : Thinned angled p ts more) :
      Thinned angled p (t :: opening :: inner ++ closing :: ts) more

/-- Whether a token behind an attribute's word or a template's begins a group. -/
def isGroupStart (t : Token) : Bool := t.isMark "(" || t.isMark "<"

theorem beginsDropped_of_isMark {text : String} {next : Token} (h : t.isMark text = true)
    (hdrop : t.isMark "[" = true → next.isMark "[" = false) : beginsDropped t next = false := by
  simp only [beginsDropped, isAttributeWord, Token.isWord, Token.kind_of_isMark h]
  simpa using hdrop

theorem beginsDropped_opening {next : Token} (pair : isBracketPair opening closing = true)
    (hnext : opening.isMark "[" = true → next.isMark "[" = false) : beginsDropped opening next = false := by
  simp only [isBracketPair, Bool.or_eq_true, Bool.and_eq_true] at pair
  rcases pair with ⟨ho, -⟩ | ⟨ho, -⟩
  · exact beginsDropped_of_isMark ho hnext
  · exact beginsDropped_of_isMark ho hnext

theorem closing_spec (pair : isBracketPair opening closing = true) :
    closing.isMark "[" = false ∧ isGroupStart closing = false ∧ ∀ next, beginsDropped closing next = false := by
  simp only [isBracketPair, Bool.or_eq_true, Bool.and_eq_true] at pair
  rcases pair with ⟨-, hc⟩ | ⟨-, hc⟩ <;>
    exact ⟨Token.not_isMark hc (by decide), by simp [isGroupStart, Token.not_isMark hc],
      fun next => beginsDropped_of_isMark hc (by simp [Token.not_isMark hc])⟩

theorem normalize_attribute (inside : Bracketed angled p inner) (pair : isBracketPair opening closing = true)
    (hbegins : (opening.isMark "[" && inner.head?.any (·.isMark "[")) = true) (ts : List Token) :
    normalize (opening :: inner ++ closing :: ts) = normalize ts := by
  rw [Bool.and_eq_true] at hbegins
  obtain ⟨-, -, hclosing⟩ := (isBracketPair_cases pair (o := "[") (c := "]") (by decide)).resolve_right
    (by simp [hbegins.1])
  have hattribute := IsAttribute.square hbegins.1 hbegins.2 (inside.closesMarks (by decide)) hclosing
  simpa using hattribute.normalize_append ts

theorem normalize_attributeWord (inside : Bracketed angled p inner) (hword : isAttributeWord t = true)
    (pair : isBracketPair opening closing = true) (hopening : opening.isMark "(" = true) (ts : List Token) :
    normalize (t :: (opening :: inner ++ closing :: ts)) = normalize ts := by
  obtain ⟨-, -, hclosing⟩ := (isBracketPair_cases pair (o := "(") (c := ")") (by decide)).resolve_right
    (by simp [hopening])
  have hattribute := IsAttribute.word hword hopening (inside.closesMarks (by decide)) hclosing
  simpa using hattribute.normalize_append ts

theorem length_lt_enclosed (opening closing : Token) (inner ts : List Token) :
    inner.length < (opening :: inner ++ closing :: ts).length ∧
      ts.length < (opening :: inner ++ closing :: ts).length := by
  rw [List.length_append, List.length_cons, List.length_cons]
  omega

theorem enclosed_append (opening closing : Token) (inner ts us : List Token) :
    opening :: inner ++ closing :: ts ++ us = opening :: inner ++ closing :: (ts ++ us) := by
  simp

theorem normalize_enclosed {kept : List Token}
    (hopening : ∀ next ∈ (inner ++ [closing]).head?, beginsDropped opening next = false)
    (hclosing : ∀ next, beginsDropped closing next = false) (hstart : isGroupStart closing = false)
    (hinner : ∀ us : List Token, us.head?.any isGroupStart = false →
      normalize (inner ++ us) = kept ++ normalize us) (ts : List Token) :
    normalize (opening :: inner ++ closing :: ts) = opening :: kept ++ closing :: normalize ts := by
  have hnext : ∀ next ∈ (inner ++ closing :: ts).head?, beginsDropped opening next = false := by
    cases inner with
    | nil => exact hopening
    | cons first inner => exact hopening
  rw [List.cons_append, normalize_cons hnext, hinner (closing :: ts) hstart,
    normalize_cons fun next _ => hclosing next]
  rfl

theorem Headerless.enclosed (h : Headerless (opening :: inner ++ closing :: ts)) :
    Headerless inner ∧ Headerless ts :=
  ⟨(List.IsChain.tail h.left_of_append), h.right_of_append.tail⟩

/-- Where a parenthesis follows, a group does. -/
theorem Bracketed.exists_group (h : Bracketed angled p ts) (hparen : ts.head?.any (·.isMark "(") = true) :
    ∃ opening closing inner rest, ts = opening :: inner ++ closing :: rest ∧ opening.isMark "(" = true ∧
      p opening = true ∧ isBracketPair opening closing = true ∧ Bracketed false (fun _ => true) inner ∧
      Bracketed angled p rest := by
  cases h with
  | nil => simp at hparen
  | token allowed plain more =>
      have hround := (not_isMark_of_isBracket plain (o := "(") (c := ")") (by decide)).1
      simp [hround] at hparen
  | arguments allowed opens closes inside more => simp [Token.not_isMark opens] at hparen
  | @group _ _ opening closing inner ts allowed pair inside more =>
      exact ⟨opening, closing, inner, ts, rfl, by simpa using hparen, allowed, pair, inside, more⟩

/-- What is neither a bracket nor the word of an attribute stays. -/
theorem beginsDropped_of_plain (plain : isBracket angled t = false) (hheaderless : Headerless (t :: ts))
    (hword : (isAttributeWord t && ts.head?.any (·.isMark "(")) = false)
    (hus : us.head?.any isGroupStart = false) :
    ∀ next ∈ (ts ++ us).head?, beginsDropped t next = false := by
  intro next hnext
  have hsquare : t.isMark "[" = false := (not_isMark_of_isBracket plain (c := "]") (by decide)).1
  simp only [beginsDropped, hsquare, Bool.false_and, Bool.false_or]
  cases ts with
  | nil =>
      rw [List.nil_append, Option.mem_def] at hnext
      rw [hnext, Option.any_some, isGroupStart, Bool.or_eq_false_iff] at hus
      simp [hus]
  | cons first ts =>
      obtain rfl : first = next := by simpa using hnext
      simpa [(List.isChain_cons_cons.mp hheaderless).1] using hword

/-- So does a group that does not begin with two square brackets. -/
theorem beginsDropped_of_group (pair : isBracketPair opening closing = true)
    (hbegins : (opening.isMark "[" && inner.head?.any (·.isMark "[")) = false) :
    ∀ next ∈ (inner ++ [closing]).head?, beginsDropped opening next = false := by
  intro next hnext
  cases inner with
  | nil =>
      obtain rfl : closing = next := by simpa using hnext
      exact beginsDropped_opening pair fun _ => (closing_spec pair).1
  | cons first inner =>
      obtain rfl : first = next := by simpa using hnext
      exact beginsDropped_opening pair fun hsquare => by simpa [hsquare] using hbegins

theorem Bracketed.exists_thinned (h : Bracketed angled p ts) (hheaderless : Headerless ts) :
    ∃ kept, Thinned angled p ts kept ∧ ∀ us : List Token, us.head?.any isGroupStart = false →
      normalize (ts ++ us) = kept ++ normalize us := by
  -- A word takes along the group behind it, so that the induction is on the length.
  induction hn : ts.length using Nat.strong_induction_on generalizing angled p ts with
  | h n ih =>
    subst hn
    cases h with
    | nil => exact ⟨[], .nil, fun _ _ => rfl⟩
    | @token _ _ t ts allowed plain more =>
        cases hword : isAttributeWord t && ts.head?.any (·.isMark "(") with
        | true =>
            rw [Bool.and_eq_true] at hword
            obtain ⟨opening, closing, inner, rest, rfl, hopening, hallowed, pair, inside, hrest⟩ :=
              more.exists_group hword.2
            have hkind : t.kind = .word := by
              simp only [isAttributeWord, Bool.and_eq_true, decide_eq_true_eq] at hword
              exact hword.1.1
            obtain ⟨kept, hkept, hnormalize⟩ :=
              ih rest.length (Nat.lt_succ_of_lt (length_lt_enclosed ..).2) hrest (Headerless.enclosed hheaderless.tail).2 rfl
            refine ⟨kept, .wordAttribute hkind hallowed pair inside hkept, fun us hus => ?_⟩
            rw [List.cons_append, enclosed_append, normalize_attributeWord inside hword.1 pair hopening,
              hnormalize us hus]
        | false =>
            obtain ⟨kept, hkept, hnormalize⟩ := ih ts.length (by simp) more hheaderless.tail rfl
            refine ⟨t :: kept, .token allowed plain hkept, fun us hus => ?_⟩
            rw [List.cons_append, normalize_cons (beginsDropped_of_plain plain hheaderless hword hus),
              hnormalize us hus, List.cons_append]
    | @group _ _ opening closing inner ts allowed pair inside more =>
        obtain ⟨hinner, hrest⟩ := hheaderless.enclosed
        obtain ⟨more', hmore, hnormalize⟩ := ih ts.length (length_lt_enclosed ..).2 more hrest rfl
        cases hbegins : opening.isMark "[" && inner.head?.any (·.isMark "[") with
        | true =>
            refine ⟨more', .squareAttribute allowed pair inside hmore, fun us hus => ?_⟩
            rw [enclosed_append, normalize_attribute inside pair hbegins, hnormalize us hus]
        | false =>
            obtain ⟨kept, hkept, hnormalizeInner⟩ := ih inner.length (length_lt_enclosed ..).1 inside hinner rfl
            refine ⟨opening :: kept ++ closing :: more', .group allowed pair hkept hmore, fun us hus => ?_⟩
            rw [enclosed_append,
              normalize_enclosed (beginsDropped_of_group pair hbegins) (closing_spec pair).2.2
                (closing_spec pair).2.1 hnormalizeInner,
              hnormalize us hus, enclosed_append]
    | @arguments _ opening closing inner ts allowed opens closes inside more =>
        obtain ⟨hinner, hrest⟩ := hheaderless.enclosed
        obtain ⟨more', hmore, hnormalize⟩ := ih ts.length (length_lt_enclosed ..).2 more hrest rfl
        obtain ⟨kept, hkept, hnormalizeInner⟩ := ih inner.length (length_lt_enclosed ..).1 inside hinner rfl
        refine ⟨opening :: kept ++ closing :: more', .arguments allowed opens closes hkept hmore,
          fun us hus => ?_⟩
        rw [enclosed_append,
          normalize_enclosed
            (fun next _ => beginsDropped_of_isMark opens (by simp [Token.not_isMark opens]))
            (fun next => beginsDropped_of_isMark closes (by simp [Token.not_isMark closes]))
            (by simp [isGroupStart, Token.not_isMark closes]) hnormalizeInner,
          hnormalize us hus, enclosed_append]

/-- Dropping attributes thins tokens with closed brackets, and leaves what stands behind them as it is. -/
theorem Bracketed.normalize_spec (h : Bracketed angled p ts) (hheaderless : Headerless ts) :
    Thinned angled p ts (normalize ts) ∧ ∀ us : List Token, us.head?.any isGroupStart = false →
      normalize (ts ++ us) = normalize ts ++ normalize us := by
  obtain ⟨kept, hkept, hnormalize⟩ := h.exists_thinned hheaderless
  have hnil := hnormalize [] rfl
  rw [List.append_nil, normalize, List.append_nil] at hnil
  rw [hnil]
  exact ⟨hkept, hnormalize⟩

theorem Bracketed.thinned (h : Bracketed angled p ts) (hheaderless : Headerless ts) :
    Thinned angled p ts (normalize ts) :=
  (h.normalize_spec hheaderless).1

theorem Bracketed.normalize_append (h : Bracketed angled p ts) (hheaderless : Headerless ts)
    (hus : us.head?.any isGroupStart = false) : normalize (ts ++ us) = normalize ts ++ normalize us :=
  (h.normalize_spec hheaderless).2 us hus

namespace Thinned

variable {kept : List Token}

theorem bracketed (h : Thinned angled p ts kept) : Bracketed angled p kept := by
  induction h with
  | nil => exact .nil
  | token allowed plain more ih => exact .token allowed plain ih
  | group allowed pair inside after ihInside ih => exact .group allowed pair ihInside ih
  | arguments allowed opens closes inside after ihInside ih => exact .arguments allowed opens closes ihInside ih
  | squareAttribute allowed pair inside after ih => exact ih
  | wordAttribute word allowed pair inside after ih => exact ih

/-- Dropping attributes does not change what brackets are open. -/
theorem foldl_after (h : Thinned angled p ts kept) (n : Nesting) :
    kept.foldl Nesting.after n = ts.foldl Nesting.after n := by
  induction h generalizing n with
  | nil => rfl
  | token allowed plain more ih => exact ih _
  | group allowed pair inside after ihInside ih =>
      simp only [List.cons_append, List.foldl_cons, List.foldl_append, ihInside, ih]
  | arguments allowed opens closes inside after ihInside ih =>
      simp only [List.cons_append, List.foldl_cons, List.foldl_append, ihInside, ih]
  | squareAttribute allowed pair inside after ih => rw [ih, (inside.markTop_group pair n _).1]
  | wordAttribute word allowed pair inside after ih =>
      rw [ih, List.cons_append, List.cons_append, List.foldl_cons,
        Nesting.after_of_kind_ne_mark _ (by simp [word]), ← List.cons_append,
        (inside.markTop_group pair n _).1]

end Thinned

/-! ## Parentheses in front of a value -/

/-- No parenthesis stands at top level before the first equals sign that does. -/
def Unparenthesized (ms : List Marked) : Prop :=
  ∀ m ∈ ms.takeWhile (fun m => !m.isTopMark "="), m.isTopMark "(" = false

instance (ms : List Marked) : Decidable (Unparenthesized ms) :=
  inferInstanceAs (Decidable (∀ m ∈ ms.takeWhile _, _))

theorem unparenthesized_cons {ms : List Marked} :
    Unparenthesized (m :: ms) ↔ m.isTopMark "=" = true ∨ m.isTopMark "(" = false ∧ Unparenthesized ms := by
  cases hequals : m.isTopMark "=" <;> simp [Unparenthesized, hequals]

theorem Unparenthesized.append {ms ns : List Marked} (hms : ∀ m ∈ ms, m.isTopMark "(" = false)
    (hns : Unparenthesized ns) : Unparenthesized (ms ++ ns) := by
  induction ms with
  | nil => exact hns
  | cons m ms ih =>
      obtain ⟨hm, hms⟩ := List.forall_mem_cons.mp hms
      exact unparenthesized_cons.mpr (.inr ⟨hm, ih hms⟩)

theorem Unparenthesized.of_append {ms ns : List Marked} (h : Unparenthesized (ms ++ ns))
    (hms : ∀ m ∈ ms, m.isTopMark "=" = false) : Unparenthesized ns := by
  induction ms with
  | nil => exact h
  | cons m ms ih =>
      obtain ⟨hm, hms⟩ := List.forall_mem_cons.mp hms
      exact ih ((unparenthesized_cons.mp h).resolve_left (by simp [hm])).2 hms

theorem Unparenthesized.cons_imp {ms ms' : List Marked} (h : Unparenthesized ms → Unparenthesized ms')
    (hms : Unparenthesized (m :: ms)) : Unparenthesized (m :: ms') := by
  rw [unparenthesized_cons] at hms ⊢
  exact hms.imp_right fun hms => ⟨hms.1, h hms.2⟩

/-- A group in brackets has no equals sign at top level. -/
theorem Unparenthesized.of_group {ms : List Marked} (inside : Bracketed false q inner)
    (pair : isBracketPair opening closing = true)
    (h : Unparenthesized (markTop n (opening :: inner ++ closing :: ts) ++ ms)) :
    Unparenthesized (markTop n ts ++ ms) := by
  have hopening : opening.isMark "=" = false := by
    simp only [isBracketPair, Bool.or_eq_true, Bool.and_eq_true] at pair
    rcases pair with ⟨ho, -⟩ | ⟨ho, -⟩ <;> exact Token.not_isMark ho (by decide)
  have hwhole : markTop n (opening :: inner ++ closing :: ts) ++ ms =
      (⟨opening, n.isTop⟩ :: (inner.map (⟨·, false⟩) ++ [⟨closing, false⟩])) ++ (markTop n ts ++ ms) := by
    rw [(inside.markTop_group pair n ts).2]
    simp
  rw [hwhole] at h
  refine h.of_append (List.forall_mem_cons.mpr ⟨by simp [Marked.isTopMark, hopening], ?_⟩)
  rw [List.forall_mem_append]
  simp [Marked.isTopMark]

/-- Dropping attributes brings no parenthesis in front of the value. -/
theorem Thinned.unparenthesized_append {kept : List Token} {ms ms' : List Marked} (h : Thinned angled p ts kept)
    (n : Nesting) (hms : Unparenthesized ms → Unparenthesized ms')
    (hts : Unparenthesized (markTop n ts ++ ms)) : Unparenthesized (markTop n kept ++ ms') := by
  induction h generalizing n ms ms' with
  | nil => exact hms hts
  | token allowed plain more ih => exact Unparenthesized.cons_imp (ih _ hms) hts
  | group allowed pair inside after ihInside ih =>
      simp only [List.cons_append, markTop, markTop_append, inside.foldl_after, List.append_assoc] at hts ⊢
      exact Unparenthesized.cons_imp (ihInside _ (Unparenthesized.cons_imp (ih _ hms))) hts
  | arguments allowed opens closes inside after ihInside ih =>
      simp only [List.cons_append, markTop, markTop_append, inside.foldl_after, List.append_assoc] at hts ⊢
      exact Unparenthesized.cons_imp (ihInside _ (Unparenthesized.cons_imp (ih _ hms))) hts
  | squareAttribute allowed pair inside after ih => exact ih n hms (.of_group inside pair hts)
  | @wordAttribute _ _ t opening closing inner ts _ word allowed pair inside after ih =>
      have hmarks : markTop n (t :: (opening :: inner ++ closing :: ts)) =
          ⟨t, n.isTop⟩ :: markTop n (opening :: inner ++ closing :: ts) := by
        rw [markTop, Nesting.after_of_kind_ne_mark n (by simp [word])]
      have hequals : Marked.isTopMark ⟨t, n.isTop⟩ "=" = false := by
        simp [Marked.isTopMark, Token.isMark, word]
      rw [List.cons_append, List.cons_append, ← List.cons_append, hmarks, List.cons_append,
        unparenthesized_cons] at hts
      exact ih n hms (.of_group inside pair (hts.resolve_left (by simp [hequals])).2)

theorem Thinned.unparenthesized {kept : List Token} (h : Thinned angled p ts kept) (n : Nesting)
    (hts : Unparenthesized (markTop n ts)) : Unparenthesized (markTop n kept) := by
  rw [← List.append_nil (markTop n ts)] at hts
  rw [← List.append_nil (markTop n kept)]
  exact h.unparenthesized_append n id hts

end NameLint.Declaration
