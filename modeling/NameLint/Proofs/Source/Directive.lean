import Mathlib.Data.List.Infix
import NameLint.Proofs.Source.Pieces
import NameLint.Proofs.Source.Tiling

/-!
# Directives of one line

A directive hides its line and nothing else, unless a bracketed comment begins in the line that does not end
there. A line comment in a directive is no exception: what opens a bracketed comment opens one behind `//` too.
-/

namespace NameLint.Source

open NameLint.Unicode

/-! ## Pieces that are passed over whatever follows -/

/-- Text between tokens goes over a piece of text, from what it is inside of before the piece to what it is
inside of behind it, whatever follows. -/
def TriviaMode.Crosses (mode : TriviaMode) (piece : List Char) (next : TriviaMode) : Prop :=
  ∀ rest, splitTrivia mode (piece ++ rest) =
    (piece ++ (splitTrivia next rest).1, (splitTrivia next rest).2)

namespace TriviaMode.Crosses

variable {mode next last : TriviaMode} {c : Char} {piece : List Char}

theorem nil (mode : TriviaMode) : mode.Crosses [] mode := fun _ => rfl

/-- A step in front of a piece that is passed over. -/
theorem step (taken : List Char)
    (hstep : ∀ rest, mode.step? c (taken ++ (piece ++ rest)) = some (taken.length, next))
    (h : next.Crosses piece last) : mode.Crosses (c :: taken ++ piece) last := by
  intro rest
  have happ : c :: taken ++ piece ++ rest = c :: (taken ++ (piece ++ rest)) := by simp
  rw [happ, splitTrivia, hstep]
  simp [h rest]

theorem trans {piece' : List Char} (h : mode.Crosses piece next) (h' : next.Crosses piece' last) :
    mode.Crosses (piece ++ piece') last := by
  intro rest
  rw [List.append_assoc, h, h', List.append_assoc]

theorem tokensFrom {lineStart lineStart' : Bool} (place : Position)
    (h : (TriviaMode.between lineStart).Crosses piece (.between lineStart')) (rest : List Char) :
    tokensFrom lineStart place (piece ++ rest) = tokensFrom lineStart' (place.after piece) rest := by
  have htrivia := h rest
  cases hleft : (splitTrivia (.between lineStart') rest).2 with
  | nil => rw [tokensFrom_eq_nil hleft, tokensFrom_eq_nil (by rw [htrivia]; exact hleft)]
  | cons c tail =>
      rw [tokensFrom_eq_cons hleft, tokensFrom_eq_cons (by rw [htrivia]; exact hleft), htrivia,
        Position.after_append]

end TriviaMode.Crosses

/-! ## Whole directives -/

theorem CommentText.crosses {body : List Char} (h : CommentText body) :
    TriviaMode.directiveComment.Crosses (body ++ ['*', '/']) .directive := by
  induction body with
  | nil => exact .step ['/'] (fun _ => rfl) (.nil _)
  | cons c body ih =>
      have hbody : CommentText body := fun hin => h (hin.trans (List.suffix_cons c body).isInfix)
      refine .step [] (fun rest => if_neg ?_) (ih hbody)
      -- The comment would end with `c`.
      rintro ⟨rfl, hhead⟩
      cases body with
      | nil => simp at hhead
      | cons d body =>
          obtain rfl : d = '/' := by simpa using hhead
          exact h (List.prefix_append ['*', '/'] body).isInfix

theorem QuotedText.crosses {quote : Char} {inner tail : List Char} {next : TriviaMode}
    (h : QuotedText quote inner) (hquote : isQuote quote = true)
    (htail : (TriviaMode.directiveLiteral quote).Crosses tail next) :
    (TriviaMode.directiveLiteral quote).Crosses (inner ++ tail) next := by
  induction h with
  | nil => exact htail
  | plain feed back other _ ih =>
      exact .step [] (fun _ => by simp [TriviaMode.step?, feed, back, other]) ih
  | escaped d _ ih =>
      have hback : '\\' ≠ quote := (ne_of_isQuote hquote).2.2.symm
      exact .step [d] (fun _ => by simp [TriviaMode.step?, hback]) ih

theorem step?_directive_of_isQuote {quote : Char} (h : isQuote quote = true) (rest : List Char) :
    TriviaMode.directive.step? quote rest = some (0, .directiveLiteral quote) := by
  simp only [isQuote, Bool.or_eq_true, decide_eq_true_eq] at h
  rcases h with rfl | rfl <;> rfl

theorem crosses_quote {quote : Char} (hquote : isQuote quote = true) :
    (TriviaMode.directiveLiteral quote).Crosses [quote] .directive :=
  .step [] (fun _ => by simp [TriviaMode.step?, (ne_of_isQuote hquote).1]) (.nil _)

theorem crosses_lineEnd (quote : Char) :
    (TriviaMode.directiveLiteral quote).Crosses ['\n'] (.between true) :=
  .step [] (fun _ => by simp [TriviaMode.step?]) (.nil _)

theorem DirectiveText.getLast? {line : List Char} (h : DirectiveText false line) :
    line.getLast? = some '\n' := by
  induction h with
  | lineEnd => rfl
  | textEnd last | lastComment last | lastLiteral last => cases last
  | openLiteral => exact List.getLast?_concat
  | plain _ _ _ _ _ ih | continued _ _ ih | comment _ _ ih | literal _ _ _ ih =>
      simp [List.getLast?_append, List.getLast?_cons, ih]

/-- What a backslash in a directive takes stands in the directive itself. -/
theorem lineEnd_prefix_of_append {lineEnd line rest : List Char} (hmem : lineEnd ∈ lineEnds)
    (hlast : line.getLast? = some '\n') (h : lineEnd <+: line ++ rest) : lineEnd <+: line := by
  simp only [lineEnds, List.mem_cons, List.not_mem_nil, or_false] at hmem
  rcases line with _ | ⟨d, _ | ⟨e, line⟩⟩
  · cases hlast
  · obtain rfl : d = '\n' := by simpa using hlast
    rcases hmem with rfl | rfl <;> simp_all
  · rcases hmem with rfl | rfl <;> simpa using h

theorem step?_directive_of_plain {c : Char} {line : List Char} (feed : c ≠ '\n')
    (noQuote : isQuote c = false) (noComment : ¬ ['/', '*'] <+: c :: line)
    (noLineEnd : ∀ lineEnd ∈ lineEnds, ¬ '\\' :: lineEnd <+: c :: line)
    (hlast : line.getLast? = some '\n') (rest : List Char) :
    TriviaMode.directive.step? c (line ++ rest) = some (0, .directive) := by
  have hslash : ¬ (c = '/' ∧ (line ++ rest).head? = some '*') := by
    rintro ⟨rfl, hhead⟩
    cases line with
    | nil => cases hlast
    | cons d line => exact noComment (by simpa [eq_comm] using hhead)
  have hback : ∀ lineEnd ∈ lineEnds, ¬ (c = '\\' ∧ lineEnd <+: line ++ rest) := by
    rintro lineEnd hmem ⟨rfl, hpre⟩
    exact noLineEnd lineEnd hmem
      ((List.prefix_cons_inj '\\').mpr (lineEnd_prefix_of_append hmem hlast hpre))
  have hfeed : ¬ (c = '\\' ∧ (line ++ rest).head? = some '\n') := by
    rintro ⟨hc, hhead⟩
    obtain ⟨tail, htail⟩ := List.head?_eq_some_iff.mp hhead
    exact hback ['\n'] (by simp [lineEnds]) ⟨hc, by simp [htail]⟩
  have hreturn := hback ['\r', '\n'] (by simp [lineEnds])
  rw [← List.isPrefixOf_iff_prefix] at hreturn
  simp only [TriviaMode.step?, if_neg feed, if_neg hslash, if_neg hfeed, if_neg hreturn, noQuote,
    Bool.false_eq_true, if_false]

/-- A whole directive is passed over, whatever stands behind it. -/
theorem DirectiveText.crosses {line : List Char} (h : DirectiveText false line) :
    TriviaMode.directive.Crosses line (.between true) := by
  induction h with
  | lineEnd => exact .step [] (fun _ => rfl) (.nil _)
  | plain feed noQuote noComment noLineEnd next ih =>
      exact .step []
        (step?_directive_of_plain feed noQuote noComment noLineEnd next.getLast?) ih
  | continued mem _ ih =>
      simp only [lineEnds, List.mem_cons, List.not_mem_nil, or_false] at mem
      rcases mem with rfl | rfl
      · exact .step ['\n'] (fun _ => rfl) ih
      · exact .step ['\r', '\n'] (fun _ => rfl) ih
  | @comment body line inside _ ih =>
      have hcomment := inside.crosses.trans ih
      rw [List.append_assoc] at hcomment
      exact .step ['*'] (fun _ => rfl) hcomment
  | @literal quote inner line isQuote inside _ ih =>
      have hliteral := inside.crosses isQuote ((crosses_quote isQuote).trans ih)
      exact .step [] (fun _ => step?_directive_of_isQuote isQuote _) hliteral
  | openLiteral isQuote inside =>
      exact .step [] (fun _ => step?_directive_of_isQuote isQuote _)
        (inside.crosses isQuote (crosses_lineEnd _))
  | textEnd last | lastComment last | lastLiteral last => cases last

/-! ## Directives that end with their line -/

/-- The rest of a directive's line is all of the directive: no bracketed comment begins in it, outside of
literals, and goes on behind it, and neither does a backslash take the line end. -/
def EndsWithLine (line : List Char) : Prop := DirectiveText false (line ++ ['\n'])

theorem DirectiveText.cons_iff {toEnd : Bool} {c : Char} {line : List Char}
    (hc : c ∉ ['\n', '\\', '"', '\'', '/']) :
    DirectiveText toEnd (c :: line) ↔ DirectiveText toEnd line := by
  simp only [List.mem_cons, List.not_mem_nil, or_false, not_or] at hc
  obtain ⟨hfeed, hback, hdouble, hsingle, hslash⟩ := hc
  have hquote : isQuote c = false := by simp [isQuote, hdouble, hsingle]
  constructor
  · intro h
    generalize hcs : c :: line = cs at h
    cases h with
    | plain => exact (List.cons.inj hcs).2 ▸ ‹DirectiveText toEnd _›
    | literal isQuote | openLiteral isQuote | lastLiteral _ isQuote =>
        obtain rfl := (List.cons.inj hcs).1
        exact absurd isQuote (by simp [hquote])
    | textEnd => cases hcs
    | _ => exact absurd (List.cons.inj hcs).1 (by assumption)
  · intro h
    refine .plain hfeed hquote ?_ ?_ h
    · exact fun hpre => hslash (List.cons_prefix_cons.mp hpre).1.symm
    · exact fun _ _ hpre => hback (List.cons_prefix_cons.mp hpre).1.symm

theorem EndsWithLine.append_iff {start line : List Char}
    (hstart : ∀ c ∈ start, c ∉ ['\n', '\\', '"', '\'', '/']) :
    EndsWithLine (start ++ line) ↔ EndsWithLine line := by
  induction start with
  | nil => rfl
  | cons c start ih =>
      rw [← ih fun d hd => hstart d (List.mem_cons_of_mem c hd)]
      exact DirectiveText.cons_iff (hstart c List.mem_cons_self)

theorem QuotedText.of_plain {quote : Char} {inner : List Char} (hquote : quote ∉ inner)
    (hinner : ∀ c ∈ inner, c ∉ ['\n', '\\']) : QuotedText quote inner := by
  induction inner with
  | nil => exact .nil
  | cons c inner ih =>
      have hc := hinner c List.mem_cons_self
      simp only [List.mem_cons, List.not_mem_nil, or_false, not_or] at hc hquote
      exact .plain hc.1 hc.2 (Ne.symm hquote.1)
        (ih hquote.2 fun d hd => hinner d (List.mem_cons_of_mem c hd))

/-- A line in which no bracketed comment is opened, not even in a literal. -/
theorem EndsWithLine.of_no_comment {line : List Char} (hline : ∀ c ∈ line, c ∉ ['\n', '\\'])
    (hcomment : ¬ ['/', '*'] <:+: line) : EndsWithLine line := by
  induction hn : line.length using Nat.strongRecOn generalizing line with
  | ind n ih =>
      have hnext : ∀ before after, line = before ++ after → before ≠ [] → EndsWithLine after := by
        intro before after hcut hbefore
        subst hcut
        have hpos := List.length_pos_iff.mpr hbefore
        refine ih after.length (by simp only [List.length_append] at hn; omega)
          (fun c hc => hline c (List.mem_append_right before hc))
          (fun hin => hcomment (hin.trans (List.suffix_append before after).isInfix)) rfl
      cases line with
      | nil => exact .lineEnd
      | cons c rest =>
          have hc := hline c List.mem_cons_self
          have hrest : ∀ d ∈ rest, d ∉ ['\n', '\\'] := fun d hd => hline d (List.mem_cons_of_mem c hd)
          simp only [List.mem_cons, List.not_mem_nil, or_false, not_or] at hc
          by_cases hquote : isQuote c = true
          · by_cases hclosed : c ∈ rest
            · obtain ⟨inner, after, rfl, hinner⟩ := List.eq_append_cons_of_mem hclosed
              have hliteral := DirectiveText.literal hquote
                (.of_plain hinner fun d hd => hrest d (List.mem_append_left _ hd))
                (hnext (c :: inner ++ [c]) after (by simp) (by simp))
              simpa [EndsWithLine] using hliteral
            · exact .openLiteral hquote (.of_plain hclosed hrest)
          · refine .plain hc.1 (by simpa using hquote) (fun hpre => ?_) (fun lineEnd _ hpre => ?_)
              (hnext [c] rest rfl (by simp))
            · have hpre : ['/', '*'] <+: c :: rest ++ ['\n'] := hpre
              rcases List.prefix_concat_iff.mp hpre with heq | hpre
              · have hfeed : '\n' ∈ ['/', '*'] := heq ▸ List.mem_append_right _ (List.mem_singleton_self _)
                exact absurd hfeed (by decide)
              · exact hcomment hpre.isInfix
            · exact hc.2 (List.cons_prefix_cons.mp hpre).1.symm

/-- Text between tokens that is one line, from its `#` to its line end, is a directive of that line. -/
theorem Trivia.endsWithLine {line : List Char} (h : Trivia false true ('#' :: line ++ ['\n']))
    (hline : '\n' ∉ line) : EndsWithLine line := by
  generalize hcs : '#' :: line ++ ['\n'] = cs at h
  cases h with
  | @directive line' rest inside _ =>
      have hpre : line' <+: line ++ ['\n'] := ⟨rest, (List.cons.inj hcs).2.symm⟩
      rcases List.prefix_concat_iff.mp hpre with rfl | hpre
      · exact inside
      · exact absurd (hpre.subset (List.mem_of_getLast? inside.getLast?)) hline
  | blank isBlank =>
      obtain rfl := (List.cons.inj hcs).1
      exact absurd isBlank (by decide)
  | nil => cases hcs
  | lineComment | blockComment => exact absurd (List.cons.inj hcs).1 (by decide)
  | lastLineComment last | lastBlockComment last | lastDirective last => cases last

theorem Position.start_after_line {line : List Char} (hline : '\n' ∉ line) :
    start.after ('#' :: line ++ ['\n']) = start.below := by
  have hhash : '\n' ∉ '#' :: line := by simpa using hline
  rw [after_append, after_cons, after_nil, advance, if_pos rfl, line_after _ hhash]
  rfl

/-- A directive hides its line, and nothing of any text below, exactly when it ends with its line. -/
theorem tokensFrom_directive_iff {line : List Char} (hline : '\n' ∉ line) :
    (∀ rest, tokensFrom true .start ('#' :: line ++ '\n' :: rest) =
      (tokensFrom true .start rest).map (·.relabel lineBelow)) ↔ EndsWithLine line := by
  constructor
  · intro h
    have hx := h ['x']
    rw [tokensFrom_token (c := 'x') (by decide) (by decide) (by decide)] at hx
    cases hsplit : (splitTrivia (.between true) ('#' :: line ++ ['\n', 'x'])).2 with
    | nil =>
        rw [tokensFrom_eq_nil hsplit] at hx
        cases hx
    | cons c rest =>
        have hcs := splitTrivia_append (.between true) ('#' :: line ++ ['\n', 'x'])
        have htrivia := splitTrivia_trivia true ('#' :: line ++ ['\n', 'x'])
        rw [tokensFrom_eq_cons hsplit] at hx
        rw [hsplit] at hcs htrivia
        generalize (splitTrivia (.between true) ('#' :: line ++ ['\n', 'x'])).1 = gap at *
        -- The token in the second line is the `x`, so the line is all that stands before it.
        have hplace : (Position.start.after gap).line = 2 := by
          have hhead := congrArg Token.place (List.cons.inj hx).1
          exact congrArg Position.line hhead
        have hgap : gap <+: '#' :: line ++ ['\n'] := by
          have hpre : gap <+: ('#' :: line ++ ['\n']) ++ ['x'] := ⟨c :: rest, by simpa using hcs⟩
          rcases List.prefix_concat_iff.mp hpre with rfl | hpre
          · simp at hcs
          · exact hpre
        rcases List.prefix_concat_iff.mp hgap with rfl | hfront
        · exact htrivia.endsWithLine hline
        · have hno : '\n' ∉ gap := fun hmem => by
            have hmem := hfront.subset hmem
            simp [hline] at hmem
          rw [Position.line_after _ hno] at hplace
          cases hplace
  · intro h rest
    have hcross : (TriviaMode.between true).Crosses ('#' :: line ++ ['\n']) (.between true) :=
      .step [] (fun _ => rfl) h.crosses
    have hbelow := hcross.tokensFrom .start rest
    rw [Position.start_after_line hline, tokensFrom_below, List.append_assoc] at hbelow
    exact hbelow

/-- A line comment on a directive hides the rest of its line and nothing of any text below exactly when no
bracketed comment begins in it, outside of literals, and goes on behind it; so it does if no bracketed comment
is opened in it at all. -/
theorem tokens_commented_directive_iff (directive comment : String)
    (hdirective : ∀ c ∈ directive.toList, c ∉ ['\n', '\\', '"', '\'', '/'])
    (hcomment : ∀ c ∈ comment.toList, c ∉ ['\n', '\\']) :
    ((∀ text, tokens ("#" ++ directive ++ "//" ++ comment ++ "\n" ++ text) =
        (tokens text).map (·.relabel lineBelow)) ↔ EndsWithLine ('/' :: '/' :: comment.toList)) ∧
      (¬ ['/', '*'] <:+: '/' :: '/' :: comment.toList →
        ∀ text, tokens ("#" ++ directive ++ "//" ++ comment ++ "\n" ++ text) =
          (tokens text).map (·.relabel lineBelow)) := by
  have hslashes : ∀ c ∈ '/' :: '/' :: comment.toList, c ∉ ['\n', '\\'] := by
    simpa using hcomment
  have hline : '\n' ∉ directive.toList ++ '/' :: '/' :: comment.toList := by
    rw [List.mem_append, not_or]
    exact ⟨fun hmem => hdirective _ hmem (by simp), fun hmem => hslashes _ hmem (by simp)⟩
  have htext : ∀ text, ("#" ++ directive ++ "//" ++ comment ++ "\n" ++ text).toList =
      '#' :: (directive.toList ++ '/' :: '/' :: comment.toList) ++ '\n' :: text.toList := fun text => by
    simp
  have hiff : (∀ text, tokens ("#" ++ directive ++ "//" ++ comment ++ "\n" ++ text) =
      (tokens text).map (·.relabel lineBelow)) ↔ EndsWithLine ('/' :: '/' :: comment.toList) := by
    rw [← EndsWithLine.append_iff hdirective, ← tokensFrom_directive_iff hline]
    refine ⟨fun h rest => ?_, fun h text => ?_⟩
    · have hrest := h (String.ofList rest)
      rwa [tokens, tokens, htext, String.toList_ofList] at hrest
    · rw [tokens, tokens, htext]
      exact h text.toList
  exact ⟨hiff, fun hnone => hiff.mpr (.of_no_comment hslashes hnone)⟩

/-- What looks like a bracketed comment begins behind a single quote. -/
theorem tokens_commented_directive_quote :
    (∀ c ∈ "define A 1 ".toList, c ∉ ['\n', '\\', '"', '\'', '/']) ∧
      (∀ c ∈ "'/*".toList, c ∉ ['\n', '\\']) ∧
      ∀ text, tokens ("#" ++ "define A 1 " ++ "//" ++ "'/*" ++ "\n" ++ text) =
        (tokens text).map (·.relabel lineBelow) := by
  have hdirective : ∀ c ∈ "define A 1 ".toList, c ∉ ['\n', '\\', '"', '\'', '/'] := by simp
  have hcomment : ∀ c ∈ "'/*".toList, c ∉ ['\n', '\\'] := by simp
  have hquoted : QuotedText '\'' ['/', '*'] := .of_plain (by decide) (by simp)
  have hline : EndsWithLine ('/' :: '/' :: "'/*".toList) :=
    .plain (by decide) (by decide) (by decide) (by decide)
      (.plain (by decide) (by decide) (by decide) (by decide) (.openLiteral (by decide) hquoted))
  exact ⟨hdirective, hcomment, (tokens_commented_directive_iff _ _ hdirective hcomment).1.mpr hline⟩

/-- A path with an asterisk in a line comment opens a bracketed comment, which hides the lines below. -/
theorem tokens_commented_directive_ne_path :
    (∀ c ∈ "include <map> ".toList, c ∉ ['\n', '\\', '"', '\'', '/']) ∧
      (∀ c ∈ " see gen/*.h".toList, c ∉ ['\n', '\\']) ∧
      tokens ("#" ++ "include <map> " ++ "//" ++ " see gen/*.h" ++ "\n" ++ "int x;\n") = [] ∧
      (tokens "int x;\n").map (·.relabel lineBelow) =
        [⟨.word, "int", ⟨2, 1⟩⟩, ⟨.word, "x", ⟨2, 5⟩⟩, ⟨.mark, ";", ⟨2, 6⟩⟩] :=
  ⟨by simp, by simp, by decide +kernel, by decide +kernel⟩

end NameLint.Source
