import NameLint.Config.Document

/-!
# Blank documents

A blank document is not read. Its lines are those between line feeds, its blanks are those of Unicode, and
a comment may stand directly behind any of them; a YAML stream has more line ends and fewer blanks in front
of comments. What is blank for both has no entries.
-/

namespace NameLint.Config.Yaml

open NameLint.Unicode

/-- Whether every line of a stream is blank or a comment, given whether its current line has come to a
comment, and whether one may begin here. -/
def isBlankStreamFrom (inComment gap : Bool) : List Char → Bool
  | [] => true
  | x :: rest =>
    if isBreak x then isBlankStreamFrom false true rest
    else if inComment then isBlankStreamFrom true gap rest
    else if x = '#' ∧ gap = true then isBlankStreamFrom true gap rest
    else isBlank x && isBlankStreamFrom false (isSpace x) rest

/-- Whether a stream holds nothing but blank lines and comments. -/
def isBlankStream (text : List Char) : Bool := isBlankStreamFrom false true text

section Characters

variable {inComment gap : Bool} {x : Char} {cs : List Char}

theorem isBlank_of_isBreak (h : isBreak x = true) : isBlank x = true := by
  simp only [isBreak, Bool.or_eq_true, decide_eq_true_eq] at h
  obtain (((rfl | rfl) | h) | h) | h := h
  · decide
  · decide
  all_goals simp [isBlank, h]

theorem isBlank_of_isSpace (h : isSpace x = true) : isBlank x = true := by
  simp only [isSpace, Bool.or_eq_true, decide_eq_true_eq] at h
  obtain rfl | rfl := h <;> decide

theorem isBlankStreamFrom_break (h : isBreak x = true) :
    isBlankStreamFrom inComment gap (x :: cs) = isBlankStream cs := by
  simp [isBlankStreamFrom, isBlankStream, h]

theorem isBlankStreamFrom_mark :
    isBlankStreamFrom false gap ('#' :: cs) = (gap && isBlankStreamFrom true true cs) := by
  have hblank : isBlank '#' = false := by decide
  have hbreak : isBreak '#' = false := by decide
  cases gap <;> simp [isBlankStreamFrom, hblank, hbreak]

/-- Behind a blank a comment may begin if the blank is a space or ends a line. -/
theorem isBlankStreamFrom_blank (h : isBlank x = true) :
    isBlankStreamFrom false gap (x :: cs) = isBlankStreamFrom false (isSpace x || isBreak x) cs := by
  have hmark : x ≠ '#' := by rintro rfl; exact absurd h (by decide)
  cases hbreak : isBreak x with
  | true => rw [isBlankStreamFrom_break hbreak, Bool.or_true, isBlankStream]
  | false => simp [isBlankStreamFrom, hbreak, h, hmark]

/-- A blank stream goes on with a blank, or with a comment where one may begin. -/
theorem isBlank_or_eq_of_isBlankStreamFrom (h : isBlankStreamFrom false gap (x :: cs) = true) :
    isBlank x = true ∨ (x = '#' ∧ gap = true) := by
  by_cases hmark : x = '#'
  · subst hmark
    rw [isBlankStreamFrom_mark, Bool.and_eq_true] at h
    exact .inr ⟨rfl, h.1⟩
  · by_cases hbreak : isBreak x = true
    · exact .inl (isBlank_of_isBreak hbreak)
    · simp only [isBlankStreamFrom, hbreak, hmark, false_and, if_false, Bool.false_eq_true,
        Bool.and_eq_true] at h
      exact .inl h.1

/-- Where a gap comes next it does not matter whether there was one before. -/
theorem isBlankStream_of_gap (hx : (isSpace x || isBreak x) = true)
    (h : isBlankStreamFrom false gap (x :: cs) = true) : isBlankStream (x :: cs) = true := by
  have hblank : isBlank x = true :=
    (Bool.or_eq_true_iff.mp hx).elim isBlank_of_isSpace isBlank_of_isBreak
  rw [isBlankStreamFrom_blank hblank] at h
  rwa [isBlankStream, isBlankStreamFrom_blank hblank]

theorem isBlankStream_space (h : isSpace x = true) : isBlankStream (x :: cs) = isBlankStream cs := by
  rw [isBlankStream, isBlankStreamFrom_blank (isBlank_of_isSpace h), h, Bool.true_or, isBlankStream]

theorem isBlankStream_dropWhile_space {p : Char → Bool} (hp : ∀ x, p x = true → isSpace x = true)
    (h : isBlankStream cs = true) : isBlankStream (cs.dropWhile p) = true := by
  induction cs with
  | nil => exact h
  | cons x cs ih =>
      by_cases hx : p x = true
      · rw [isBlankStream_space (hp x hx)] at h
        simpa [hx] using ih h
      · simpa [hx] using h

/-- What follows a comment at the end of its line. -/
theorem isBlankStreamFrom_dropWhile_comment (h : isBlankStreamFrom true gap cs = true) :
    isBlankStream (cs.dropWhile fun x => !isBreak x) = true := by
  induction cs with
  | nil => rfl
  | cons x cs ih =>
      cases hx : isBreak x with
      | true =>
          rw [isBlankStreamFrom_break hx] at h
          rwa [List.dropWhile_cons_of_neg (by simp [hx]), isBlankStream, isBlankStreamFrom_break hx]
      | false =>
          simp only [isBlankStreamFrom, hx, if_false, if_true, Bool.false_eq_true] at h
          rw [List.dropWhile_cons_of_pos (by simp [hx])]
          exact ih h

end Characters

/-! ## Cursors -/

section Cursors

variable {c c' : Cursor}

theorem Cursor.skip_rest {x : Char} {cs : List Char} (h : c.rest = x :: cs) : c.skip.rest = cs := by
  simp [Cursor.skip, h]

theorem Cursor.skipWhile_rest (c : Cursor) (p : Char → Bool) :
    (c.skipWhile p).rest = c.rest.dropWhile p :=
  calc c.rest.drop (c.rest.takeWhile p).length
      = (c.rest.takeWhile p ++ c.rest.dropWhile p).drop (c.rest.takeWhile p).length := by
        rw [List.takeWhile_append_dropWhile]
    _ = c.rest.dropWhile p := List.drop_left

theorem isBlankStream_skipBreak (h : isBlankStream c.rest = true) (hbreak : c.atBreak = true) :
    isBlankStream c.skipBreak.rest = true := by
  unfold Cursor.skipBreak
  split
  · next rest heq => simpa [heq, isBlankStream, isBlankStreamFrom, isBreak] using h
  · next x rest _ heq =>
      have hx : isBreak x = true := by simpa [Cursor.atBreak, heq] using hbreak
      rwa [heq, isBlankStream, isBlankStreamFrom_break hx] at h
  · exact h

/-- What lies before a token on its line: the mark of a stream's start, spaces and a comment. -/
theorem isBlankStream_beforeToken {keyAllowed : Bool} (h : isBlankStream c.rest = true) :
    let c₁ := if c.index = 0 ∧ c.rest.head? = some '\ufeff' then c.skip else c
    let c₂ := c₁.skipWhile fun x => x = ' ' || ((false || !keyAllowed) && x = '\t')
    let c₃ := if c₂.rest.head? = some '#' then c₂.skipLine else c₂
    isBlankStream c₃.rest = true := by
  intro c₁ c₂ c₃
  have h₁ : isBlankStream c₁.rest = true := by
    unfold c₁
    split
    · next hmark =>
      obtain ⟨cs, hcs⟩ := List.head?_eq_some_iff.mp hmark.2
      rw [hcs] at h
      obtain hblank | ⟨heq, _⟩ := isBlank_or_eq_of_isBlankStreamFrom h
      · exact absurd hblank (by decide)
      · exact absurd heq (by decide)
    · exact h
  have h₂ : isBlankStream c₂.rest = true := by
    rw [Cursor.skipWhile_rest]
    refine isBlankStream_dropWhile_space (fun x hx => ?_) h₁
    simp only [Bool.or_eq_true, Bool.and_eq_true, decide_eq_true_eq] at hx
    simpa [isSpace] using hx.imp_right And.right
  unfold c₃
  split
  · next hmark =>
    obtain ⟨cs, hcs⟩ := List.head?_eq_some_iff.mp hmark
    rw [Cursor.skipLine, Cursor.skipWhile_rest, hcs, List.dropWhile_cons_of_pos (by decide)]
    rw [hcs, isBlankStream, isBlankStreamFrom_mark, Bool.true_and] at h₂
    exact isBlankStreamFrom_dropWhile_comment h₂
  · exact h₂

/-- A token is looked for behind blanks and comments. -/
theorem isBlankStream_toNextToken {keyAllowed : Bool} (h : isBlankStream c.rest = true) :
    isBlankStream (toNextToken false keyAllowed c).2.rest = true := by
  fun_induction toNextToken false keyAllowed c with
  | case1 keyAllowed c c₁ c₂ c₃ hbreak next _ ih =>
      exact ih (isBlankStream_skipBreak (isBlankStream_beforeToken h) hbreak)
  | case2 keyAllowed c c₁ c₂ c₃ hbreak next =>
      exact isBlankStream_skipBreak (isBlankStream_beforeToken h) hbreak
  | case3 keyAllowed c c₁ c₂ c₃ => exact isBlankStream_beforeToken h

theorem isBlankStream_readGap? {indent : Option Nat} {g g' : Gap}
    (h : isBlankStream c.rest = true) (hread : readGap? indent g c = some (g', c')) :
    isBlankStream c'.rest = true := by
  fun_induction readGap? indent g c with
  | case1 g c => cases hread; exact h
  | case2 => cases hread
  | case3 g c x cs hcs hspace _ _ ih | case4 g c x cs hcs hspace _ ih =>
      refine ih ?_ hread
      rwa [hcs, isBlankStream_space hspace, ← Cursor.skip_rest hcs] at h
  | case5 g c x cs hcs _ hbreak ih =>
      exact ih (isBlankStream_skipBreak h (by simpa [Cursor.atBreak, hcs] using hbreak)) hread
  | case6 g c => cases hread; exact h

end Cursors

/-! ## Plain scalars -/

/-- A plain scalar takes in blanks that are no spaces for the stream, and no comment behind one. -/
theorem isBlankStream_readPlainFrom? {indent : Nat} {fresh broken : Bool} {gap : Gap}
    {text text' : List Char} {c c' : Cursor} (h : isBlankStreamFrom false fresh c.rest = true)
    (hread : readPlainFrom? false indent fresh gap text c = some (text', broken, c')) :
    isBlankStream c'.rest = true := by
  -- A scalar is `fresh` exactly where a comment may begin.
  induction hn : c.rest.length using Nat.strongRecOn generalizing fresh gap text c with
  | _ n ih =>
    subst hn
    rw [readPlainFrom?] at hread
    split at hread
    · next hended =>
      cases hread
      rwa [(Bool.and_eq_true_iff.mp hended).1] at h
    next hgoes =>
    split at hread
    · next hcs => cases hread; simp [hcs, isBlankStream, isBlankStreamFrom]
    next x cs hcs =>
    rw [hcs] at h
    split at hread
    · next hx =>
      have hstream := isBlankStream_of_gap hx h
      split at hread
      · cases hread
      · next gap' c₁ hgap =>
        have hrest := isBlankStream_readGap? (hcs ▸ hstream) hgap
        split at hread
        · cases hread; exact hrest
        · split at hread
          · next hlt => exact ih _ hlt hrest hread rfl
          · cases hread
    · next hx =>
      obtain ⟨hspace, hbreak⟩ : isSpace x = false ∧ isBreak x = false := by simpa using hx
      have hmark : ¬ (x = '#' ∧ fresh = true) := by
        rintro ⟨rfl, rfl⟩
        simp [hcs] at hgoes
      have hblank := (isBlank_or_eq_of_isBlankStreamFrom h).resolve_right hmark
      have hends : endsPlain false x cs = false := by
        have hne : x ≠ ':' := by rintro rfl; exact absurd hblank (by decide)
        simp [endsPlain, hne]
      simp only [isStrayColon, hends, Bool.false_and, Bool.false_eq_true, if_false] at hread
      rw [isBlankStreamFrom_blank hblank, hspace, hbreak, Bool.or_false, ← Cursor.skip_rest hcs] at h
      exact ih _ (Cursor.skip_length_lt hcs) h hread rfl

/-! ## Scalars as the only tokens -/

/-- Whether a token is a scalar. -/
def Token.isScalar : Token → Bool
  | .scalar _ _ => true
  | _ => false

/-- Scalars alone hold no pair. -/
theorem eq_nil_of_pairs? {ts : List Token} {pairs : Pairs} (hts : ∀ t ∈ ts, t.isScalar = true)
    (h : pairs? ts = some pairs) : pairs = [] := by
  match ts with
  | [] => simp [pairs?, readDirectives?, Reader.root?, readProperties, Properties.resolveTag?] at h
  | .scalar text plain :: ts =>
      simp only [pairs?, readDirectives?, List.nil_append, Option.bind_eq_bind, Option.bind_some,
        List.length_cons, Nat.lt_irrefl, if_false, Reader.root?, readProperties, Properties.resolveTag?] at h
      cases hnull : isNullDocument none text plain <;> simp_all
  | .version _ _ :: _ | .handle _ _ :: _ | .documentStart :: _ | .documentEnd :: _ | .mappingStart :: _
  | .mappingEnd :: _ | .flowStart :: _ | .flowEnd :: _ | .entry :: _ | .key :: _ | .value :: _
  | .alias _ :: _ | .anchor _ :: _ | .tag _ _ :: _ =>
      exact absurd (hts _ List.mem_cons_self) (by simp [Token.isScalar])

namespace Scan

/-- A scan of a stream that has been blank so far, and goes on so. -/
structure Blank (s : Scan) : Prop where
  rest : isBlankStream s.cursor.rest = true
  flow : s.flow = false
  indent : s.indent = none
  possibleKey : s.possibleKey.any (·.required) = false
  tokens : ∀ t ∈ s.tokens, t.isScalar = true

variable {s s' : Scan}

theorem Blank.dropKey? (h : s.Blank) : s.dropKey? = some { s with possibleKey := none } := by
  simp [Scan.dropKey?, h.possibleKey]

theorem Blank.closeAll (h : s.Blank) : s.closeAll = s := by simp [Scan.closeAll, h.indent]

theorem Blank.closeTo (h : s.Blank) (column : Nat) : s.closeTo column = s := by
  simp [Scan.closeTo, h.indent]

theorem Blank.dropStaleKey? (h : s.Blank) (hstale : s.dropStaleKey? = some s') : s'.Blank := by
  unfold Scan.dropStaleKey? at hstale
  split at hstale
  · cases hstale; exact h
  · split at hstale
    · rw [h.dropKey?] at hstale
      cases hstale
      exact { h with possibleKey := rfl }
    · cases hstale; exact h

/-- A key that may begin here is not the only thing that may. -/
theorem Blank.saveKey? (h : s.Blank) (hsave : s.saveKey? = some s') : s'.Blank := by
  unfold Scan.saveKey? at hsave
  split at hsave
  · simp only [h.dropKey?, Option.map_some, Option.some.injEq] at hsave
    subst hsave
    exact { h with possibleKey := by simp [h.indent] }
  · cases hsave; exact h

theorem Blank.plain? (h : s.Blank) (hplain : s.plain? = some s') : s'.Blank := by
  simp only [Scan.plain?, Option.bind_eq_bind, Option.bind_eq_some_iff] at hplain
  obtain ⟨t, hsave, ⟨text, broken, c'⟩, hread, heq⟩ := hplain
  have ht := h.saveKey? hsave
  rw [ht.flow] at hread
  cases heq
  exact {
    ht with
    rest := isBlankStream_readPlainFrom? ht.rest hread
    tokens := List.forall_mem_cons.mpr ⟨rfl, ht.tokens⟩ }

/-- What a blank stream goes on with begins no token but a plain scalar. -/
theorem Blank.token? (h : s.Blank) {x : Char} {cs : List Char} (hcs : s.cursor.rest = x :: cs) :
    s.token? x cs = if startsPlain s.flow x cs then s.plain? else none := by
  have hx : isBlank x = true ∨ x = '#' :=
    (isBlank_or_eq_of_isBlankStreamFrom (hcs ▸ h.rest)).imp_right And.left
  have hother : ∀ y, (!isBlank y && y != '#') = true → x ≠ y := by
    rintro y hy rfl
    simp_all
  have hmarks : (['%', '-', '.', '[', ']', '\x7b', '\x7d', ',', '?', ':', '*', '&', '!', '|', '>', '\'',
      '"'].all fun y => !isBlank y && y != '#') = true := by decide
  have hne := fun y hy => hother y (List.all_eq_true.mp hmarks y hy)
  simp only [List.forall_mem_cons] at hne
  simp [Scan.token?, Cursor.atMarker, hcs, hne, hne.2.1.symm, hne.2.2.1.symm]

theorem Blank.toNextToken (h : s.Blank) {keyAllowed : Bool} {c : Cursor}
    (hnext : Yaml.toNextToken s.flow s.keyAllowed s.cursor = (keyAllowed, c)) :
    ({ s with keyAllowed := keyAllowed, cursor := c } : Scan).Blank := by
  have hrest : isBlankStream (Yaml.toNextToken false s.keyAllowed s.cursor).2.rest = true :=
    isBlankStream_toNextToken h.rest
  rw [h.flow] at hnext
  rw [hnext] at hrest
  exact { h with rest := hrest }

/-- From a blank scan no token is read but scalars. -/
theorem Blank.run? {ts : List Token} (h : s.Blank) (hrun : s.run? = some ts) :
    ∀ t ∈ ts, t.isScalar = true := by
  fun_induction Scan.run? s with
  | case1 | case3 | case5 => cases hrun
  | case2 s keyAllowed c hnext start ready hready closed _ =>
      have hblank := (h.toNextToken hnext).dropStaleKey? hready
      have hclosed : closed = ready := hblank.closeTo _
      simp only [hclosed, hblank.closeAll, hblank.dropKey?, Option.map_some, Option.some.injEq] at hrun
      simpa [← hrun] using hblank.tokens
  | case4 s keyAllowed c hnext start ready hready closed x cs hcs next htoken _ ih =>
      have hblank := (h.toNextToken hnext).dropStaleKey? hready
      have hclosed : closed = ready := hblank.closeTo _
      rw [hclosed] at hcs htoken
      rw [hblank.token? hcs] at htoken
      split at htoken
      · exact ih (hblank.plain? htoken) hrun
      · cases htoken

end Scan

/-- A stream of blank lines and comments holds no pair. -/
theorem read?_eq_nil_of_isBlankStream {text : List Char} {pairs : Pairs} (h : isBlankStream text = true)
    (hread : read? text = some pairs) : pairs = [] := by
  obtain ⟨ts, hts, hpairs⟩ := Option.bind_eq_some_iff.mp hread
  refine eq_nil_of_pairs? ?_ hpairs
  have hstart : ({ cursor := { rest := text } } : Scan).Blank := ⟨h, rfl, rfl, rfl, by simp⟩
  unfold tokens? at hts
  split at hts
  · exact hstart.run? hts
  · cases hts

end NameLint.Config.Yaml

namespace NameLint.Config

open NameLint.Unicode Yaml

/-! ## Texts that hide pairs -/

/-- The rest of a line up to its line feed. -/
def toLineFeed (cs : List Char) : List Char := cs.takeWhile (· ≠ '\n')

/-- What of a line lies behind its comment for a stream, given whether the comment goes on. -/
def behindComment (inComment : Bool) (line : List Char) : List Char :=
  if inComment then line.dropWhile fun y => !isBreak y else line

/-- Whether a blank text and a blank stream differ in what begins here: a comment directly behind a blank
that is none in a stream, or a comment that a stream ends before the line feed, with more than blanks behind
its end. -/
def isDisputed (x : Char) (rest : List Char) : Bool :=
  (isBlank x && !isSpace x && !isBreak x && rest.head? = some '#')
    || (x = '#' && (behindComment true (toLineFeed rest)).any fun y => !isBlank y)

/-- Whether something disputed stands in a text. -/
def hasDisputed : List Char → Bool
  | [] => false
  | x :: rest => isDisputed x rest || hasDisputed rest

section Disputed

theorem toLineFeed_cons {x : Char} (h : x ≠ '\n') (cs : List Char) :
    toLineFeed (x :: cs) = x :: toLineFeed cs := by
  simp [toLineFeed, h]

/-- What a blank text goes on with, if it is no comment. -/
theorem isBlankFrom_tail {x : Char} {cs : List Char} (hmark : x ≠ '#')
    (h : isBlankFrom false (x :: cs) = true) : isBlank x = true ∧ isBlankFrom false cs = true := by
  by_cases hfeed : x = '\n'
  · subst hfeed
    exact ⟨by decide, by simpa [isBlankFrom] using h⟩
  · simpa [isBlankFrom, hfeed, hmark] using h

theorem hasDisputed_of_tail (x : Char) {cs : List Char} (h : hasDisputed cs = true) :
    hasDisputed (x :: cs) = true := by
  simp [hasDisputed, h]

mutual

/-- A line that is blank so far in a text and in a stream. -/
theorem hasDisputed_of_line {gap : Bool} : (cs : List Char) → isBlankFrom false cs = true →
    isBlankStreamFrom false gap cs = false → hasDisputed cs = true ∨ (gap = false ∧ cs.head? = some '#')
  | [], _, hstream => by simp [isBlankStreamFrom] at hstream
  | x :: cs, htext, hstream => by
      by_cases hmark : x = '#'
      · subst hmark
        cases gap with
        | false => exact .inr ⟨rfl, rfl⟩
        | true =>
            have htext : isBlankFrom true cs = true := by simpa [isBlankFrom] using htext
            rw [isBlankStreamFrom_mark, Bool.true_and] at hstream
            obtain h | h := hasDisputed_of_comment cs htext hstream
            · exact .inl (hasDisputed_of_tail _ h)
            · exact .inl (by simp [hasDisputed, isDisputed, h])
      · obtain ⟨hblank, htext⟩ := isBlankFrom_tail hmark htext
        rw [isBlankStreamFrom_blank hblank] at hstream
        obtain h | ⟨hgap, h⟩ := hasDisputed_of_line cs htext hstream
        · exact .inl (hasDisputed_of_tail _ h)
        · obtain ⟨hspace, hbreak⟩ : isSpace x = false ∧ isBreak x = false := by simpa using hgap
          exact .inl (by simp [hasDisputed, isDisputed, hblank, hspace, hbreak, h])

/-- A line that has come to a comment. If the stream is not in it any more, its end lies behind. -/
theorem hasDisputed_of_comment {inComment gap : Bool} : (cs : List Char) → isBlankFrom true cs = true →
    isBlankStreamFrom inComment gap cs = false →
    hasDisputed cs = true ∨ (behindComment inComment (toLineFeed cs)).any (fun y => !isBlank y) = true
  | [], _, hstream => by simp [isBlankStreamFrom] at hstream
  | x :: cs, htext, hstream => by
      by_cases hfeed : x = '\n'
      · subst hfeed
        have htext : isBlankFrom false cs = true := by simpa [isBlankFrom] using htext
        rw [isBlankStreamFrom_break (by decide)] at hstream
        obtain h | ⟨h, _⟩ := hasDisputed_of_line cs htext hstream
        · exact .inl (hasDisputed_of_tail _ h)
        · cases h
      have htext : isBlankFrom true cs = true := by simpa [isBlankFrom, hfeed] using htext
      rw [toLineFeed_cons hfeed]
      cases hinside : inComment && !isBreak x with
      | true =>
          obtain ⟨rfl, hbreak⟩ : inComment = true ∧ isBreak x = false := by simpa using hinside
          have hstream : isBlankStreamFrom true gap cs = false := by
            simpa [isBlankStreamFrom, hbreak] using hstream
          have hbehind : behindComment true (x :: toLineFeed cs) = behindComment true (toLineFeed cs) := by
            simp [behindComment, hbreak]
          rw [hbehind]
          exact (hasDisputed_of_comment cs htext hstream).imp_left (hasDisputed_of_tail _)
      | false =>
          have hbehind : behindComment inComment (x :: toLineFeed cs) = x :: toLineFeed cs := by
            cases inComment <;> simp_all [behindComment]
          rw [hbehind, List.any_cons]
          cases hblank : isBlank x with
          | false => exact .inr (by simp)
          | true =>
              obtain ⟨gap', hstream⟩ : ∃ gap', isBlankStreamFrom false gap' cs = false := by
                cases inComment with
                | true =>
                    have hbreak : isBreak x = true := by simpa using hinside
                    exact ⟨true, by rwa [isBlankStreamFrom_break hbreak] at hstream⟩
                | false => exact ⟨_, by rwa [isBlankStreamFrom_blank hblank] at hstream⟩
              exact (hasDisputed_of_comment cs htext hstream).imp (hasDisputed_of_tail _) id

end

end Disputed

/-- A text that is blank, though a stream finds more in it than blank lines and comments. -/
def Overlooked (text : List Char) : Prop := isBlankText text = true ∧ isBlankStream text = false

instance (text : List Char) : Decidable (Overlooked text) := inferInstanceAs (Decidable (_ ∧ _))

theorem hasDisputed_of_overlooked {text : List Char} (h : Overlooked text) : hasDisputed text = true := by
  obtain hdisputed | ⟨hgap, _⟩ := hasDisputed_of_line text h.1 h.2
  · exact hdisputed
  · cases hgap

/-- A blank text that holds a pair is overlooked. -/
theorem overlooked_iff_of_read? {text : List Char} {pairs : Pairs} (hread : Yaml.read? text = some pairs)
    (hpairs : pairs ≠ []) : Overlooked text ↔ isBlankText text = true := by
  refine ⟨And.left, fun hblank => ⟨hblank, ?_⟩⟩
  rw [Bool.eq_false_iff]
  exact fun hstream => hpairs (read?_eq_nil_of_isBlankStream hstream hread)

/-- A blank text that is not overlooked holds no pair. The document of a text that holds pairs has exactly
these as entries if, and only if, the text is not overlooked; an overlooked text has something disputed
in it. -/
theorem readEntries?_yaml (text : String) :
    (isBlankText text.toList = true → ¬ Overlooked text.toList →
      ∀ pairs, Yaml.read? text.toList = some pairs → pairs = []) ∧
    (∀ pairs, Yaml.read? text.toList = some pairs → pairs ≠ [] →
      (readEntries? .yaml text = some (entriesFrom 1 pairs) ↔ ¬ Overlooked text.toList)) ∧
    (Overlooked text.toList → hasDisputed text.toList = true) := by
  refine ⟨fun hblank hseen pairs hread => ?_, fun pairs hread hpairs => ?_, hasDisputed_of_overlooked⟩
  · have hstream : isBlankStream text.toList = true := by simpa [Overlooked, hblank] using hseen
    exact read?_eq_nil_of_isBlankStream hstream hread
  · rw [overlooked_iff_of_read? hread hpairs]
    obtain ⟨⟨key, value⟩, rest, rfl⟩ := List.exists_cons_of_ne_nil hpairs
    cases hblank : isBlankText text.toList with
    | true => simp [readEntries?, hblank, entriesFrom]
    | false => simp [readEntries?, hblank, Format.read?, hread]

/-- A comment is no entry, be it the whole text or behind one. -/
theorem readEntries?_yaml_comment :
    (∀ pairs, Yaml.read? " # nothing yet\r\n".toList = some pairs → pairs = []) ∧
      readEntries? .yaml "a: b # c" = some [⟨"a", "b", 1⟩] :=
  ⟨(readEntries?_yaml _).1 (by decide) (by decide),
    ((readEntries?_yaml "a: b # c").2.1 [(['a'], ['b'])] (by decide +kernel) (by decide)).mpr (by decide)⟩

/-- A stream ends a comment at a carriage return, and begins none directly behind an ideographic space. -/
theorem readEntries?_yaml_overlooked :
    (isBlankText "#\rclassDef: PascalCase\n".toList = true ∧
      Yaml.read? "#\rclassDef: PascalCase\n".toList = some [("classDef".toList, "PascalCase".toList)] ∧
      readEntries? .yaml "#\rclassDef: PascalCase\n" = some []) ∧
    isBlankText "\u3000# a: b".toList = true ∧
      Yaml.read? "\u3000# a: b".toList = some [("\u3000# a".toList, "b".toList)] ∧
      readEntries? .yaml "\u3000# a: b" = some [] := by
  decide +kernel

end NameLint.Config
