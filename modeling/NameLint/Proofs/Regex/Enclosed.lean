import NameLint.Proofs.Regex.Piece

/-!
# Expressions in a group

An expression that is read to its end alone is read alike in a group, unless it ends in a comment, which takes
in the parenthesis that closes the group. And what is read in a group is an expression by itself, unless a
parenthesis in it closes the group before its end.
-/

namespace NameLint.Regex

open NameLint.Unicode

namespace ParseState

/-- The state with more groups open around all others. -/
def under (st : ParseState) (outer : List GroupFrame) : ParseState :=
  { st with frames := st.frames ++ outer }

variable {st : ParseState} {outer : List GroupFrame}

@[simp] theorem under_nil (st : ParseState) : st.under [] = st := by
  simp [under]

@[simp] theorem under_flags : (st.under outer).flags = st.flags := rfl

@[simp] theorem under_terms : (st.under outer).terms = st.terms := rfl

@[simp] theorem under_names : (st.under outer).names = st.names := rfl

@[simp] theorem under_frames : (st.under outer).frames = st.frames ++ outer := rfl

@[simp] theorem under_groupTerm : (st.under outer).groupTerm = st.groupTerm := rfl

@[simp] theorem under_add (expr : Expr) (depth : Nat) :
    (st.under outer).add expr depth = (st.add expr depth).under outer := rfl

theorem under_closeGroup? (h : st.frames ≠ []) :
    (st.under outer).closeGroup? = st.closeGroup?.map (·.under outer) := by
  obtain ⟨frame, frames, hframes⟩ := List.exists_cons_of_ne_nil h
  simp only [closeGroup?, under_frames, hframes]
  rfl

theorem under_repeatLast? (min : Nat) (max : Option Nat) :
    (st.under outer).repeatLast? min max = (st.repeatLast? min max).map (·.under outer) := by
  simp only [repeatLast?, under_terms]
  split
  next => rfl
  next => split <;> rfl

end ParseState

theorem addAtom?_under (st : ParseState) (outer : List GroupFrame) (atom : Atom) :
    addAtom? (st.under outer) atom = (addAtom? st atom).map (·.under outer) := by
  cases atom <;> rfl

theorem openNamedGroup?_under (st : ParseState) (outer : List GroupFrame) (cs : List Char) :
    openNamedGroup? (st.under outer) cs =
      (openNamedGroup? st cs).map fun (st', rest) => (st'.under outer, rest) := by
  simp only [openNamedGroup?]
  cases readGroupName? cs with
  | none => rfl
  | some read =>
      by_cases hname : read.1 ∈ st.names
      · simp [hname]
      · simp [hname, ParseState.under, ParseState.openGroup]

theorem readGroup?_under (st : ParseState) (outer : List GroupFrame) (cs : List Char) :
    readGroup? (st.under outer) cs = (readGroup? st cs).map fun (st', rest) => (st'.under outer, rest) := by
  simp only [readGroup?, ParseState.under_flags]
  split
  · rfl
  · rfl
  · rfl
  · rfl
  · exact openNamedGroup?_under ..
  · exact openNamedGroup?_under ..
  · split
    · rfl
    · rfl
    · split <;> rfl
  · rfl

/-- Groups around all others make no difference to a piece, unless it closes one of them. -/
theorem readPiece?_under {st : ParseState} {c : Char} (h : c = ')' → st.frames ≠ []) (outer : List GroupFrame)
    (rest : List Char) :
    readPiece? (st.under outer) c rest =
      (readPiece? st c rest).map fun (st', rest) => (st'.under outer, rest) := by
  unfold readPiece?
  split
  · exact readGroup?_under ..
  · rw [ParseState.under_closeGroup? (h rfl)]; simp [Function.comp_def]
  · rfl
  · simp [Function.comp_def]
  · rw [ParseState.under_repeatLast?]; simp [Function.comp_def]
  · rw [ParseState.under_repeatLast?]; simp [Function.comp_def]
  · rw [ParseState.under_repeatLast?]; simp [Function.comp_def]
  · simp only [ParseState.under_terms, ParseState.under_flags, ParseState.under_repeatLast?]
    split
    · rfl
    · cases readBounds? st.flags rest <;> simp [Function.comp_def]
  · simp only [ParseState.under_flags, addAtom?_under]
    cases readEscape? st.flags rest <;> simp [Function.comp_def]
  · simp [Function.comp_def]
  · rfl
  · rfl
  · rfl

/-! ## Reading an expression -/

theorem parsePieces?_nil (n : Nat) {st : ParseState} {cs : List Char} (h : st.flags.skip cs = []) :
    parsePieces? n st cs = if st.frames.isEmpty then some st.groupTerm else none := by
  rw [parsePieces?.eq_def, h]

theorem parsePieces?_cons (n : Nat) {st : ParseState} {cs rest : List Char} {c : Char}
    (h : st.flags.skip cs = c :: rest) :
    parsePieces? (n + 1) st cs = (readPiece? st c rest).bind fun read => parsePieces? n read.1 read.2 := by
  rw [parsePieces?.eq_def, h]

theorem length_lt_of_skip_eq_cons {f : Flags} {cs rest : List Char} {c : Char} (h : f.skip cs = c :: rest) :
    rest.length < cs.length := by
  have hle := f.length_skip_le cs
  rw [h, List.length_cons] at hle
  omega

theorem length_lt_of_readPiece? {st : ParseState} {cs rest : List Char} {c : Char}
    {read : ParseState × List Char} (h : st.flags.skip cs = c :: rest) (hread : readPiece? st c rest = some read) :
    read.2.length < cs.length :=
  Nat.lt_of_le_of_lt ((regular_readPiece? st c).length_le hread) (length_lt_of_skip_eq_cons h)

/-- More pieces than there are characters make no difference. -/
theorem parsePieces?_of_length_le {m n : Nat} {st : ParseState} {cs : List Char} (hm : cs.length ≤ m)
    (hn : cs.length ≤ n) : parsePieces? m st cs = parsePieces? n st cs := by
  induction m generalizing n st cs with
  | zero =>
      obtain rfl : cs = [] := List.eq_nil_of_length_eq_zero (Nat.le_zero.mp hm)
      rw [parsePieces?_nil _ st.flags.skip_nil, parsePieces?_nil _ st.flags.skip_nil]
  | succ m ih =>
      cases hcs : st.flags.skip cs with
      | nil => rw [parsePieces?_nil _ hcs, parsePieces?_nil _ hcs]
      | cons c rest =>
          have hpositive : 0 < cs.length := Nat.zero_lt_of_lt (length_lt_of_skip_eq_cons hcs)
          obtain ⟨n, rfl⟩ := Nat.exists_eq_succ_of_ne_zero (by omega : n ≠ 0)
          rw [parsePieces?_cons _ hcs, parsePieces?_cons _ hcs]
          refine Option.bind_congr fun read hread => ?_
          have hlt := length_lt_of_readPiece? hcs hread
          exact ih (by omega) (by omega)

/-- Every piece takes its first character at least, so reading goes on until the end or a refusal. -/
theorem parseFrom?_eq (st : ParseState) (cs : List Char) :
    parseFrom? st cs =
      match st.flags.skip cs with
      | [] => if st.frames.isEmpty then some st.groupTerm else none
      | c :: rest => (readPiece? st c rest).bind fun read => parseFrom? read.1 read.2 := by
  cases hcs : st.flags.skip cs with
  | nil => exact parsePieces?_nil _ hcs
  | cons c rest =>
      rw [parseFrom?, parsePieces?_of_length_le (Nat.le_refl _) (Nat.le_succ _), parsePieces?_cons _ hcs]
      refine Option.bind_congr fun read hread => ?_
      have hlt := length_lt_of_readPiece? hcs hread
      exact parsePieces?_of_length_le (by omega) (Nat.le_refl _)

theorem parseFrom?_of_skip_eq_nil (st : ParseState) {cs : List Char} (h : st.flags.skip cs = []) :
    parseFrom? st cs = if st.frames.isEmpty then some st.groupTerm else none := by
  rw [parseFrom?_eq, h]

theorem parseFrom?_of_skip_eq_cons (st : ParseState) {cs rest : List Char} {c : Char}
    (h : st.flags.skip cs = c :: rest) :
    parseFrom? st cs = (readPiece? st c rest).bind fun read => parseFrom? read.1 read.2 := by
  rw [parseFrom?_eq, h]

theorem parseFrom?_nil (st : ParseState) :
    parseFrom? st [] = if st.frames.isEmpty then some st.groupTerm else none :=
  parseFrom?_of_skip_eq_nil st st.flags.skip_nil

/-- Where something else than blanks and comments comes, it comes in front of a parenthesis too. -/
theorem Flags.skip_append_of_eq_cons {f : Flags} {cs rest : List Char} {c : Char} (h : f.skip cs = c :: rest)
    (after : List Char) : f.skip (cs ++ ')' :: after) = c :: (rest ++ ')' :: after) := by
  rcases f.skip_append cs with hskip | ⟨hskip, -⟩
  · rw [hskip, h, List.cons_append]
  · simp [hskip] at h

theorem closeParen_open_of_readPiece? {st : ParseState} {c : Char} {rest : List Char}
    (h : (readPiece? st c rest).isSome) : c = ')' → st.frames ≠ [] := by
  rintro rfl hframes
  simp [readPiece?, ParseState.closeGroup?, hframes] at h

/-! ## From an expression to the expression in a group -/

/-- What a state is after an expression that was read alone to its end, where groups are open around it and a
closing parenthesis follows: in front of the parenthesis, or at the end of the text if a comment takes the
parenthesis in. -/
inductive ReadThrough (st fin : ParseState) (cs : List Char) : Prop where
  | stays (h : ∀ outer after, parseFrom? (st.under outer) (cs ++ ')' :: after) =
      parseFrom? (fin.under outer) (')' :: after))
  | inComment (h : ∀ outer after, '\n' ∉ after →
      parseFrom? (st.under outer) (cs ++ ')' :: after) = parseFrom? (fin.under outer) [])

theorem readThrough_of_parseFrom? {st : ParseState} {cs : List Char} {t : Term}
    (h : parseFrom? st cs = some t) :
    ∃ fin : ParseState, fin.frames = [] ∧ fin.groupTerm = t ∧ ReadThrough st fin cs := by
  cases hcs : st.flags.skip cs with
  | nil =>
      rw [parseFrom?_of_skip_eq_nil st hcs] at h
      obtain ⟨hframes, rfl⟩ : st.frames = [] ∧ st.groupTerm = t := by simpa using h
      refine ⟨st, hframes, rfl, ?_⟩
      rcases st.flags.skip_append cs with hskip | ⟨-, hskip⟩
      · refine .stays fun outer after => ?_
        have hparen : st.flags.skip (cs ++ ')' :: after) = ')' :: after := by rw [hskip, hcs]; rfl
        rw [parseFrom?_of_skip_eq_cons (st.under outer) hparen,
          parseFrom?_of_skip_eq_cons (st.under outer) (Flags.skip_closeParen _ after)]
      · refine .inComment fun outer after hno => ?_
        have hnil : st.flags.skip (cs ++ ')' :: after) = [] := by
          rw [hskip, Flags.dropIgnored_true_of_not_mem hno]
        rw [parseFrom?_of_skip_eq_nil (st.under outer) hnil, parseFrom?_nil]
  | cons c rest =>
      rw [parseFrom?_of_skip_eq_cons st hcs] at h
      obtain ⟨⟨st', rest'⟩, hpiece, h⟩ := Option.bind_eq_some_iff.mp h
      have hopen : c = ')' → st.frames ≠ [] := closeParen_open_of_readPiece? (by rw [hpiece]; rfl)
      have hstep (outer : List GroupFrame) (after : List Char) :
          parseFrom? (st.under outer) (cs ++ ')' :: after) =
            (readPiece? st c (rest ++ ')' :: after)).bind fun read =>
              parseFrom? (read.1.under outer) read.2 := by
        rw [parseFrom?_of_skip_eq_cons (st.under outer) (Flags.skip_append_of_eq_cons hcs after),
          readPiece?_under hopen]
        cases readPiece? st c (rest ++ ')' :: after) <;> rfl
      have hlt : rest'.length < cs.length := length_lt_of_readPiece? hcs hpiece
      rcases (regular_readPiece? st c).stops rest with ⟨x, left, hx, hstays⟩ | hpasses
      · obtain ⟨rfl, rfl⟩ : x = st' ∧ left = rest' := by simpa [hpiece] using hx.symm
        obtain ⟨fin, hframes, hterm, hfin⟩ := readThrough_of_parseFrom? h
        refine ⟨fin, hframes, hterm, ?_⟩
        cases hfin with
        | stays hfin => exact .stays fun outer after => by rw [hstep, hstays]; exact hfin outer after
        | inComment hfin =>
            exact .inComment fun outer after hno => by rw [hstep, hstays]; exact hfin outer after hno
      · obtain ⟨rfl, hswallows⟩ := hpasses.swallows st' rest' hpiece
        rw [parseFrom?_nil] at h
        obtain ⟨hframes, rfl⟩ : st'.frames = [] ∧ st'.groupTerm = t := by simpa using h
        exact ⟨st', hframes, rfl, .inComment fun outer after hno => by rw [hstep, hswallows after hno]; rfl⟩
termination_by cs.length

/-! ## From the expression in a group to the expression -/

theorem readCount?_closeParen (f : Flags) (after : List Char) : readCount? f (')' :: after) = none := by
  simp [readCount?, Flags.takeRun, Flags.takeRun.go]

theorem readPiece?_brace_of_readCount? {st : ParseState} {cs : List Char}
    (h : readCount? st.flags (st.flags.skip cs) = none) : readPiece? st '\x7b' cs = none := by
  simp [readPiece?, readBounds?, h]

/-- Unfilled braces are no repetition. -/
theorem parseFrom?_of_unfilled {st : ParseState} {cs : List Char} (h : Unfilled st.flags cs) :
    parseFrom? st cs = none := by
  obtain ⟨inner, rfl, hinner⟩ := h
  rw [parseFrom?_of_skip_eq_cons st (Flags.skip_openBrace ..), readPiece?_brace_of_readCount?]
  · rfl
  · rw [hinner]
    rfl

theorem parseFrom?_append_of_unfilled {st : ParseState} {cs after : List Char} (h : Unfilled st.flags cs)
    (hno : '\n' ∉ after) : parseFrom? st (cs ++ ')' :: after) = none := by
  obtain ⟨inner, rfl, hinner⟩ := h
  rw [List.cons_append, parseFrom?_of_skip_eq_cons st (Flags.skip_openBrace ..),
    readPiece?_brace_of_readCount?]
  · rfl
  · rcases st.flags.skip_append inner with hskip | ⟨-, hskip⟩
    · rw [hskip, hinner, List.nil_append, readCount?_closeParen]
    · rw [hskip, Flags.dropIgnored_true_of_not_mem hno]
      rfl

/-- With groups open, the anchor at the end does not end an expression. -/
theorem parseFrom?_suffix_dollar (st : ParseState) {cs : List Char} (h : st.frames ≠ [])
    (hcs : cs <:+ ['$']) : parseFrom? st cs = none := by
  rcases List.suffix_cons_iff.mp hcs with rfl | hnil
  · have hdollar : isBlank '$' = false := by decide
    have hskip : st.flags.skip ['$'] = ['$'] := by simp [Flags.skip, Flags.dropIgnored, hdollar]
    have hpiece : readPiece? st '$' [] = some (st.add (.anchor (endAnchor st.flags)) 0, []) := rfl
    rw [parseFrom?_of_skip_eq_cons st hskip, hpiece, Option.bind_some, parseFrom?_nil]
    simp [ParseState.add, h]
  · obtain rfl : cs = [] := List.suffix_nil.mp hnil
    simp [parseFrom?_nil, h]

/-- A text is well-formed as what is left of an expression if it is read to its end. -/
def Completes (st : ParseState) (cs : List Char) : Prop :=
  (parseFrom? st cs).isSome = true

/-- A parenthesis that closes no group of the text: what stands before it is read to its end, but not so with the
parenthesis. -/
def ClosesTooMuch (st : ParseState) (cs : List Char) : Prop :=
  ∃ before after, cs = before ++ ')' :: after ∧ Completes st before ∧ ¬ Completes st (before ++ [')'])

theorem Flags.dropIgnored_eq_cons {inComment : Bool} {cs rest : List Char} {c : Char}
    (h : dropIgnored inComment cs = c :: rest) :
    ∃ ignored, cs = ignored ++ c :: rest ∧ dropIgnored inComment ignored = [] ∧
      ∀ left, dropIgnored inComment (ignored ++ c :: left) = c :: left := by
  induction cs generalizing inComment with
  | nil => simp [dropIgnored] at h
  | cons d cs ih =>
      by_cases hpass : inComment = true ∨ isBlank d = true ∨ d = '#'
      · obtain ⟨mode, hmode⟩ : ∃ mode, ∀ cs, dropIgnored inComment (d :: cs) = dropIgnored mode cs := by
          cases inComment with
          | true => exact ⟨d != '\n', fun _ => rfl⟩
          | false =>
              cases hblank : isBlank d with
              | true => exact ⟨false, fun cs => by simp [dropIgnored, hblank]⟩
              | false =>
                  obtain rfl : d = '#' := by simpa [hblank] using hpass
                  exact ⟨true, fun cs => by simp [dropIgnored, hblank]⟩
        rw [hmode] at h
        obtain ⟨ignored, rfl, hignored, hleft⟩ := ih h
        exact ⟨d :: ignored, rfl, (hmode _).trans hignored, fun left => (hmode _).trans (hleft left)⟩
      · obtain ⟨rfl, hblank, hmark⟩ : inComment = false ∧ isBlank d = false ∧ d ≠ '#' := by
          simpa using hpass
        have hstop (cs : List Char) : dropIgnored false (d :: cs) = d :: cs := by
          simp [dropIgnored, hblank, hmark]
        obtain ⟨rfl, rfl⟩ : d = c ∧ cs = rest := by simpa [hstop] using h
        exact ⟨[], rfl, rfl, hstop⟩

/-- What is passed over before a character, is passed over alone and before any other text. -/
theorem Flags.skip_eq_cons {f : Flags} {cs rest : List Char} {c : Char} (h : f.skip cs = c :: rest) :
    ∃ ignored, cs = ignored ++ c :: rest ∧ f.skip ignored = [] ∧
      ∀ left, f.skip (ignored ++ c :: left) = c :: left := by
  unfold skip at h ⊢
  split at h
  next hverbose =>
    simp only [hverbose, if_true]
    exact dropIgnored_eq_cons h
  next hverbose =>
    subst h
    exact ⟨[], rfl, by simp [hverbose], by simp [hverbose]⟩

/-- Where no group is open, a closing parenthesis is refused. -/
theorem parseFrom?_closeParen {st : ParseState} (h : st.frames = []) (after : List Char) :
    parseFrom? st (')' :: after) = none := by
  rw [parseFrom?_of_skip_eq_cons st (Flags.skip_closeParen ..)]
  simp [readPiece?, ParseState.closeGroup?, h]

/-- What closes too much is no expression, whatever follows. -/
theorem ClosesTooMuch.not_completes {st : ParseState} {cs : List Char} (h : ClosesTooMuch st cs) :
    ¬ Completes st cs := by
  obtain ⟨before, after, rfl, hbefore, hparen⟩ := h
  obtain ⟨t, ht⟩ := Option.isSome_iff_exists.mp hbefore
  obtain ⟨fin, hframes, -, hthrough⟩ := readThrough_of_parseFrom? ht
  cases hthrough with
  | stays hstays =>
      have hclosed := hstays [] after
      rw [ParseState.under_nil, ParseState.under_nil, parseFrom?_closeParen hframes] at hclosed
      simp [Completes, hclosed]
  | inComment hswallows =>
      have hclosed := hswallows [] [] (by simp)
      rw [ParseState.under_nil, ParseState.under_nil, parseFrom?_nil] at hclosed
      simp [Completes, hclosed, hframes] at hparen

theorem ClosesTooMuch.of_piece {st st' : ParseState} {cs rest left : List Char} {c : Char}
    (hcs : st.flags.skip cs = c :: rest) (hpiece : readPiece? st c rest = some (st', left))
    (h : ClosesTooMuch st' left) : ClosesTooMuch st cs := by
  obtain ⟨before, after, rfl, hbefore, hparen⟩ := h
  obtain ⟨taken, rfl⟩ := (regular_readPiece? st c).suffix rest st' _ hpiece
  obtain ⟨ignored, rfl, -, hskip⟩ := Flags.skip_eq_cons hcs
  rw [← List.append_assoc] at hpiece
  rcases ((regular_readPiece? st c).stops (taken ++ before)).of_append hpiece with ⟨hread, hstays⟩ | ⟨-, hcut⟩
  · refine ⟨ignored ++ c :: (taken ++ before), after, by simp, ?_, ?_⟩
    · rw [Completes, parseFrom?_of_skip_eq_cons st (hskip _), hread]
      exact hbefore
    · rw [Completes, List.append_assoc, List.cons_append, parseFrom?_of_skip_eq_cons st (hskip _), hstays]
      exact hparen
  · simp [Completes, parseFrom?_of_unfilled hcut] at hbefore

theorem Completes.of_piece {st st' : ParseState} {cs rest left : List Char} {c : Char}
    (hcs : st.flags.skip cs = c :: rest) (hpiece : readPiece? st c rest = some (st', left))
    (h : Completes st' left) : Completes st cs := by
  rw [Completes, parseFrom?_of_skip_eq_cons st hcs, hpiece]
  exact h

/-- A parenthesis where no group is open closes too much. -/
theorem closesTooMuch_of_closeParen {st : ParseState} {cs rest : List Char} (hframes : st.frames = [])
    (hcs : st.flags.skip cs = ')' :: rest) : ClosesTooMuch st cs := by
  obtain ⟨ignored, rfl, hignored, hskip⟩ := Flags.skip_eq_cons hcs
  refine ⟨ignored, rest, rfl, ?_, ?_⟩
  · simp [Completes, parseFrom?_of_skip_eq_nil st hignored, hframes]
  · simp [Completes, parseFrom?_of_skip_eq_cons st (hskip []), readPiece?, ParseState.closeGroup?, hframes]

/-- With a group open, its closing parenthesis is not the end of an expression around which more is open. -/
theorem parseFrom?_closeParen_dollar {st : ParseState} (hframes : st.frames ≠ []) (frame : GroupFrame) :
    parseFrom? (st.under [frame]) [')', '$'] = none := by
  obtain ⟨inner, frames, hcons⟩ := List.exists_cons_of_ne_nil hframes
  rw [parseFrom?_of_skip_eq_cons _ (Flags.skip_closeParen _ ['$']), readPiece?_under (fun _ => hframes)]
  simp only [readPiece?, ParseState.closeGroup?, hcons, Option.map_some, Option.bind_some]
  exact parseFrom?_suffix_dollar _ (by simp) List.suffix_rfl

/-- What is an expression in a group, is one by itself, or has a parenthesis in it that closes the group. -/
theorem completes_of_enclosed {st : ParseState} {frame : GroupFrame} {cs : List Char}
    (h : Completes (st.under [frame]) (cs ++ [')', '$'])) : Completes st cs ∨ ClosesTooMuch st cs := by
  cases hcs : st.flags.skip cs with
  | nil =>
      by_cases hframes : st.frames = []
      · exact .inl (by simp [Completes, parseFrom?_of_skip_eq_nil st hcs, hframes])
      · exfalso
        rcases st.flags.skip_append cs with hskip | ⟨-, hskip⟩
        · have hparen : st.flags.skip (cs ++ [')', '$']) = [')', '$'] := by rw [hskip, hcs]; rfl
          have hnone := parseFrom?_closeParen_dollar hframes frame
          rw [parseFrom?_of_skip_eq_cons (st.under [frame]) (Flags.skip_closeParen _ ['$'])] at hnone
          rw [Completes, parseFrom?_of_skip_eq_cons (st.under [frame]) hparen, hnone] at h
          simp at h
        · have hnil : st.flags.skip (cs ++ [')', '$']) = [] := hskip ['$']
          simp [Completes, parseFrom?_of_skip_eq_nil (st.under [frame]) hnil] at h
  | cons c rest =>
      by_cases hclose : c = ')' ∧ st.frames = []
      · obtain ⟨rfl, hframes⟩ := hclose
        exact .inr (closesTooMuch_of_closeParen hframes hcs)
      · have hopen : c = ')' → st.frames ≠ [] := fun hc hframes => hclose ⟨hc, hframes⟩
        rw [Completes, parseFrom?_of_skip_eq_cons (st.under [frame]) (Flags.skip_append_of_eq_cons hcs _),
          readPiece?_under hopen] at h
        obtain ⟨⟨st', left⟩, hpiece⟩ : ∃ read, readPiece? st c (rest ++ [')', '$']) = some read := by
          cases hpiece : readPiece? st c (rest ++ [')', '$']) with
          | none => simp [hpiece] at h
          | some read => exact ⟨read, rfl⟩
        replace h : Completes (st'.under [frame]) left := by
          rw [hpiece] at h
          exact h
        rcases (regular_readPiece? st c).stops rest with ⟨x, rest', hx, hstays⟩ | hpasses
        · obtain ⟨rfl, rfl⟩ : x = st' ∧ rest' ++ [')', '$'] = left := by
            simpa [hpiece] using (hstays ['$']).symm
          have hlt : rest'.length < cs.length := length_lt_of_readPiece? hcs hx
          rcases completes_of_enclosed h with hcompletes | hcloses
          · exact .inl (hcompletes.of_piece hcs hx)
          · exact .inr (hcloses.of_piece hcs hx)
        · exfalso
          rcases hpasses.beyond ['$'] st' left hpiece with hleft | ⟨-, rest', rfl, hcut⟩
          · simp [Completes, parseFrom?_suffix_dollar (st'.under [frame]) (by simp) hleft] at h
          · have hnone : parseFrom? (st'.under [frame]) (rest' ++ [')', '$']) = none :=
              parseFrom?_append_of_unfilled hcut (by decide)
            simp [Completes, hnone] at h
termination_by cs.length

end NameLint.Regex
