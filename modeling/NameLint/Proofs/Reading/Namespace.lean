import NameLint.Proofs.Reading.Cut
import NameLint.Proofs.Reading.Depth
import NameLint.Proofs.Reading.Relabel
import NameLint.Proofs.Source.Pieces

/-!
# Texts in a namespace

A namespace or a linkage block around a text changes nothing in what is found in it. Reading inside of it
goes through the same states with one scope more at the bottom, and behind the text comes at most the brace
that closes it.
-/

namespace NameLint.Source

/-- Behind a text that is closed in a new line, its last token may change, without becoming a brace or a
semicolon, and after it comes the closing brace or, if the text takes it in, nothing. -/
theorem tokensFrom_closed (lineStart : Bool) (place : Position) (cs : List Char) :
    ∃ before last last' closing,
      tokensFrom lineStart place cs = before ++ last ∧
      tokensFrom lineStart place (cs ++ ['\n', '\x7d']) = before ++ last' ++ closing ∧
      last.all (·.isQuiet) = true ∧ last'.all (·.isQuiet) = true ∧
      (closing = [] ∨ ∃ t : Token, closing = [t] ∧ t.closesBrace = true) := by
  obtain ⟨before, last, last', lineStart', place', rest, hts, hclosed, hrest, hlast, hlast'⟩ :=
    tokensFrom_newLine ['\x7d'] lineStart place cs
  refine ⟨before, last, last', _, hts, hclosed, hlast, hlast', ?_⟩
  have hbrace : ∀ lineStart place, tokensFrom lineStart place ['\x7d'] = [⟨.mark, "\x7d", place⟩] :=
    fun lineStart place => by
      rw [tokensFrom_mark (by simp), tokensFrom_nil]
  rcases List.suffix_cons_iff.mp hrest with rfl | hrest
  · rw [tokensFrom_blank (by decide), hbrace]
    exact .inr ⟨_, rfl, rfl⟩
  rcases List.suffix_cons_iff.mp hrest with rfl | hrest
  · rw [hbrace]
    exact .inr ⟨_, rfl, rfl⟩
  · rw [List.suffix_nil.mp hrest, tokensFrom_nil]
    exact .inl rfl

end NameLint.Source

namespace NameLint.Declaration

open NameLint.Source

/-! ## One scope more at the bottom -/

/-- The scope of a namespace. -/
def namespaceFrame : Frame := ⟨.namespaceBody, []⟩

namespace Scopes

/-- Scopes inside of a namespace. -/
def within (scopes : Scopes) : Scopes := scopes ++ [namespaceFrame]

variable (scopes : Scopes)

@[simp] theorem length_within : scopes.within.length = scopes.length + 1 := by
  simp [within]

@[simp] theorem site_within : scopes.within.site = scopes.site := by
  cases scopes <;> rfl

@[simp] theorem isHidden_within : scopes.within.isHidden = scopes.isHidden := by
  cases scopes <;> rfl

theorem setAccess_within (access : Access) :
    scopes.within.setAccess access = (scopes.setAccess access).within := by
  cases scopes with
  | nil => rfl
  | cons frame outer =>
      obtain ⟨kind, declaration⟩ := frame
      cases kind <;> rfl

end Scopes

namespace Reading

/-- A state of reading inside of a namespace. -/
def within (r : Reading) : Reading := ⟨r.scopes.within, r.statement⟩

variable {limit : Nat} {r s : Reading} {t : Token} {ts : List Token} {found : List Occurrence}
  {e : ExtractError}

@[simp] theorem scopes_within (r : Reading) : r.within.scopes = r.scopes.within := rfl

@[simp] theorem statement_within (r : Reading) : r.within.statement = r.statement := rfl

theorem opening_within (r : Reading) : r.within.opening = r.opening := by
  simp [opening]

theorem openedFrame_within (r : Reading) : r.within.openedFrame = r.openedFrame := by
  simp [openedFrame, opening_within]

theorem openedStatement_within (r : Reading) : r.within.openedStatement = r.openedStatement := by
  simp [openedStatement, opening_within]

theorem openedName?_within (r : Reading) : r.within.openedName? = r.openedName? := by
  simp [openedName?, opening_within]

theorem closedStatement_within (r : Reading) (frame : Frame) (outer : Scopes) (brace : Token) :
    r.within.closedStatement frame outer.within brace = r.closedStatement frame outer brace := by
  simp [closedStatement]

theorem endStatement_within (r : Reading) :
    r.within.endStatement = (r.endStatement.1.within, r.endStatement.2) := by
  simp [endStatement, within]

theorem endLabel?_within (r : Reading) : r.within.endLabel? = r.endLabel?.map within := by
  unfold endLabel?
  rw [scopes_within, statement_within, Scopes.site_within]
  cases r.scopes.site <;> try rfl
  cases labelAccess? r.statement with
  | some access => simp [within, Scopes.setAccess_within]
  | none =>
      rcases r.statement with _ | ⟨label, _ | ⟨next, rest⟩⟩
      · rfl
      · cases hname : label.isName <;> simp [hname, within]
      · rfl

/-- Each transition has its like inside of a namespace, where the limit is one higher. -/
theorem Step.within (h : Step limit r t s found) : Step (limit + 1) r.within t s.within found := by
  cases h with
  | opens brace room =>
      have hstep : Step (limit + 1) r.within t _ _ := .opens brace (by simpa using room)
      rw [openedFrame_within, openedStatement_within, openedName?_within] at hstep
      exact hstep
  | closes brace open_ =>
      rename_i frame outer
      have hopen : r.within.scopes = frame :: outer.within := by
        rw [scopes_within, open_]
        rfl
      have hstep : Step (limit + 1) r.within t _ _ := .closes brace hopen
      rw [closedStatement_within] at hstep
      exact hstep
  | passes notOpening notClosing hidden => exact .passes notOpening notClosing (by simpa)
  | ends semicolon visible =>
      have hstep : Step (limit + 1) r.within t _ _ := .ends semicolon (by simpa)
      rw [endStatement_within] at hstep
      exact hstep
  | labels colon visible label =>
      exact .labels colon (by simpa) (by rw [endLabel?_within, label, Option.map_some])
  | continues notOpening notClosing visible notEnd notLabel =>
      exact .continues notOpening notClosing (by simpa) notEnd fun colon => by
        rw [endLabel?_within, notLabel colon, Option.map_none]

theorem run_within (h : r.run limit ts = .ok (s, found)) :
    r.within.run (limit + 1) ts = .ok (s.within, found) := by
  induction ts generalizing r found with
  | nil =>
      cases h
      rfl
  | cons t ts ih =>
      obtain ⟨m, first, later, hstep, hrun, rfl⟩ := run_cons_eq_ok_iff.mp h
      exact hstep.within.run_cons (ih hrun)

/-- A brace that opens too much does so inside of a namespace too, and a brace that closes nothing closes
the namespace there. -/
theorem step_within_error (h : r.step limit t = .error e) :
    e = .unbalancedBrace t.place ∨ e = .nestingTooDeep t.place limit ∧
      r.within.step (limit + 1) t = .error (.nestingTooDeep t.place (limit + 1)) := by
  rcases step_eq_error_iff.mp h with ⟨brace, full, rfl⟩ | ⟨-, -, rfl⟩
  · exact .inr ⟨rfl, step_eq_error_iff.mpr (.inl ⟨brace, by simpa using full, rfl⟩)⟩
  · exact .inl rfl

/-- Quiet tokens, and a brace that closes the namespace or what is still open in it, make nothing known. -/
theorem extractFrom_within_closing {closing : List Token} (h : ts.all (·.isQuiet) = true)
    (hclosing : closing = [] ∨ ∃ t : Token, closing = [t] ∧ t.closesBrace = true) :
    extractFrom (limit + 1) r.within (ts ++ closing) = ⟨[], none⟩ := by
  obtain ⟨s, hrun⟩ := run_of_isQuiet (limit + 1) r.within h
  rw [extractFrom_append hrun]
  rcases hclosing with rfl | ⟨t, rfl, brace⟩
  · rfl
  -- No scope is closed by the quiet tokens, so that the brace has one to close.
  have hdepth : braceDepth ts = 0 := by
    simp only [List.all_eq_true, Token.isQuiet, Bool.and_eq_true, Bool.not_eq_true'] at h
    have hopen : ts.countP (·.opensBrace) = 0 :=
      List.countP_eq_zero.mpr fun t ht => by simp [(h t ht).1.1]
    have hclose : ts.countP (·.closesBrace) = 0 :=
      List.countP_eq_zero.mpr fun t ht => by simp [(h t ht).1.2]
    simp [braceDepth, hopen, hclose]
  have hlength := run_length_scopes hrun
  cases hs : s.scopes with
  | nil =>
      rw [hs, hdepth, scopes_within, Scopes.length_within, List.length_nil] at hlength
      omega
  | cons frame outer =>
      rw [(Step.closes brace hs).extractFrom_cons]
      rfl

end Reading

/-! ## The heads of namespaces -/

/-- What begins a namespace or a linkage block. -/
inductive NamespaceHead where
  | unnamed
  | named (name : Identifier)
  | nested (outer inner : Identifier)
  | inlined (name : Identifier)
  | linkage

namespace NamespaceHead

/-- The text of a head. -/
def text : NamespaceHead → String
  | .unnamed => "namespace"
  | .named name => "namespace " ++ name.text
  | .nested outer inner => "namespace " ++ outer.text ++ "::" ++ inner.text
  | .inlined name => "inline namespace " ++ name.text
  | .linkage => "extern \"C\""

section

variable (name outer inner : Identifier)

@[simp] theorem text_unnamed : unnamed.text = "namespace" := rfl

@[simp] theorem text_named : (named name).text = "namespace " ++ name.text := rfl

@[simp] theorem text_nested :
    (nested outer inner).text = "namespace " ++ outer.text ++ "::" ++ inner.text := rfl

@[simp] theorem text_inlined : (inlined name).text = "inline namespace " ++ name.text := rfl

@[simp] theorem text_linkage : linkage.text = "extern \"C\"" := rfl

end

/-- A text inside of the braces that a head begins. -/
def around (head : NamespaceHead) (text : String) : String :=
  head.text ++ " \x7b\n" ++ text ++ "\n\x7d"

/-- The tokens of a head in the first line of a text. -/
def tokens : NamespaceHead → List Token
  | .unnamed => [⟨.word, "namespace", ⟨1, 1⟩⟩]
  | .named name => [⟨.word, "namespace", ⟨1, 1⟩⟩, ⟨.word, name.text, ⟨1, 11⟩⟩]
  | .nested outer inner =>
    let colons := Position.after ⟨1, 11⟩ outer.text.toList
    [⟨.word, "namespace", ⟨1, 1⟩⟩, ⟨.word, outer.text, ⟨1, 11⟩⟩, ⟨.mark, "::", colons⟩,
      ⟨.word, inner.text, colons.after [':', ':']⟩]
  | .inlined name =>
    [⟨.word, "inline", ⟨1, 1⟩⟩, ⟨.word, "namespace", ⟨1, 8⟩⟩, ⟨.word, name.text, ⟨1, 18⟩⟩]
  | .linkage => [⟨.word, "extern", ⟨1, 1⟩⟩, ⟨.literal, "\"C\"", ⟨1, 8⟩⟩]

theorem isQuiet_of_mem_tokens (head : NamespaceHead) :
    ∀ t ∈ head.tokens, t.isQuiet = true ∧ t.isMark ":" = false := by
  cases head <;>
    simp [tokens, Token.isQuiet, Token.opensBrace, Token.closesBrace, Token.isMark]

theorem classifyOpen_tokens (head : NamespaceHead) :
    classifyOpen head.tokens .global = .namespaceBody := by
  cases head <;>
    simp [tokens, classifyOpen, bracketBalance, normalize, openAfter, Token.isMark, Token.isWord,
      isAttributeWord]

/-! ## Their tokens -/

/-- What follows an opening brace at the end of a line stands one line further down. -/
theorem tokensFrom_openingLine (lineStart : Bool) {place : Position} (hline : place.line = 1)
    (cs : List Char) :
    tokensFrom lineStart place (' ' :: '\x7b' :: '\n' :: cs) =
      ⟨.mark, "\x7b", place.advance ' '⟩ ::
        (tokensFrom true .start cs).map (·.relabel lineBelow) := by
  have hbelow : ((place.advance ' ').advance '\x7b').advance '\n' = Position.start.below := by
    simp [Position.advance, hline, Position.start, Position.below]
  rw [tokensFrom_blank (by decide), tokensFrom_mark (by simp), tokensFrom_blank (by decide), hbelow,
    tokensFrom_below]
  rfl

theorem tokensFrom_spaced (name : Identifier) (lineStart : Bool) (place : Position) (cs : List Char) :
    tokensFrom lineStart place (name.text.toList ++ ' ' :: cs) =
      ⟨.word, name.text, place⟩ ::
        tokensFrom false ((place.after name.text.toList).advance ' ') cs := by
  rw [tokensFrom_identifier name (by decide) (by decide), tokensFrom_blank (by decide)]
  rfl

/-- The words of the heads. -/
def namespaceWord : Identifier := ⟨"namespace", by decide, by decide, by decide⟩

def inlineWord : Identifier := ⟨"inline", by decide, by decide, by decide⟩

def externWord : Identifier := ⟨"extern", by decide, by decide, by decide⟩

theorem tokensFrom_namespaceWord (lineStart : Bool) (cs : List Char) :
    tokensFrom lineStart .start (namespaceWord.text.toList ++ ' ' :: cs) =
      ⟨.word, "namespace", ⟨1, 1⟩⟩ :: tokensFrom false ⟨1, 11⟩ cs := by
  rw [tokensFrom_spaced]
  rfl

/-- The tokens of a head and what it begins. -/
theorem tokens_around (head : NamespaceHead) (text : String) :
    Source.tokens (head.around text) =
      head.tokens ++ ⟨.mark, "\x7b", (Position.start.after head.text.toList).advance ' '⟩ ::
        (tokensFrom true .start (text.toList ++ ['\n', '\x7d'])).map (·.relabel lineBelow) := by
  have hline : ∀ (p : Position) (name : Identifier), (p.after name.text.toList).line = p.line :=
    fun p name => p.line_after name.lineFeed_not_mem
  let body := ' ' :: '\x7b' :: '\n' :: (text.toList ++ ['\n', '\x7d'])
  cases head with
  | unnamed =>
      have htext : (around .unnamed text).toList = namespaceWord.text.toList ++ body := by
        simp [around, namespaceWord, body]
      rw [Source.tokens, htext, tokensFrom_identifier _ (by decide) (by decide),
        tokensFrom_openingLine _ (hline _ _)]
      rfl
  | named name =>
      have htext : (around (.named name) text).toList =
          namespaceWord.text.toList ++ ' ' :: (name.text.toList ++ body) := by
        simp [around, namespaceWord, body]
      rw [Source.tokens, htext, tokensFrom_namespaceWord, tokensFrom_identifier _ (by decide) (by decide),
        tokensFrom_openingLine _ (hline _ _), text_named, String.toList_append, Position.after_append]
      rfl
  | nested outer inner =>
      have htext : (around (.nested outer inner) text).toList =
          namespaceWord.text.toList ++ ' ' ::
            (outer.text.toList ++ ':' :: ':' :: (inner.text.toList ++ body)) := by
        simp [around, namespaceWord, body]
      rw [Source.tokens, htext, tokensFrom_namespaceWord, tokensFrom_identifier _ (by decide) (by decide),
        tokensFrom_colons, tokensFrom_identifier _ (by decide) (by decide),
        tokensFrom_openingLine _ ((hline _ _).trans (hline _ _)), text_nested]
      simp only [String.toList_append, Position.after_append]
      rfl
  | inlined name =>
      have htext : (around (.inlined name) text).toList =
          inlineWord.text.toList ++ ' ' :: (namespaceWord.text.toList ++ ' ' ::
            (name.text.toList ++ body)) := by
        simp [around, namespaceWord, inlineWord, body]
      rw [Source.tokens, htext, tokensFrom_spaced, tokensFrom_spaced,
        tokensFrom_identifier _ (by decide) (by decide), tokensFrom_openingLine _ (hline _ _),
        text_inlined, String.toList_append, Position.after_append]
      rfl
  | linkage =>
      have htext : (around .linkage text).toList =
          externWord.text.toList ++ ' ' :: '"' :: 'C' :: '"' :: body := by
        simp [around, externWord, body]
      have hquoted : splitQuoted '"' ('C' :: '"' :: body) = (['C', '"'], body) := by
        rw [splitQuoted_cons _ (by decide) (by decide) (by decide),
          splitQuoted_quote _ (by decide) (by decide)]
      have hsplit : splitToken '"' ('C' :: '"' :: body) = (.literal, ['"', 'C', '"'], body) := by
        rw [splitToken, if_neg (by decide), if_neg (by simp), if_pos (by decide), hquoted]
      rw [Source.tokens, htext, tokensFrom_spaced,
        tokensFrom_token (by decide) (by decide) (by decide), hsplit,
        tokensFrom_openingLine _ rfl]
      rfl

/-- Reading comes through a head into an empty namespace. -/
theorem extractFrom_head (head : NamespaceHead) (limit : Nat) (place : Position) (ts : List Token) :
    extractFrom (limit + 1) {} (head.tokens ++ ⟨.mark, "\x7b", place⟩ :: ts) =
      extractFrom (limit + 1) (Reading.within {}) ts := by
  have hjoins : ({} : Reading).run (limit + 1) head.tokens = .ok (⟨[], head.tokens⟩, []) :=
    Reading.run_joins _ rfl head.isQuiet_of_mem_tokens
  have hopens : Reading.Step (limit + 1) ⟨[], head.tokens⟩ ⟨.mark, "\x7b", place⟩ _ _ :=
    .opens rfl (Nat.zero_lt_succ _)
  have hopening : (⟨[], head.tokens⟩ : Reading).opening = .namespaceBody := by
    simpa [Reading.opening, Scopes.isHidden, Scopes.site] using head.classifyOpen_tokens
  rw [Reading.extractFrom_append hjoins, hopens.extractFrom_cons]
  simp [Reading.openedFrame, Reading.openedStatement, Reading.openedName?, hopening, Scopes.isHidden,
    Reading.after, Reading.within, Scopes.within, namespaceFrame]

end NamespaceHead

/-- A name that stands one line further down. -/
def Occurrence.below (o : Occurrence) : Occurrence := ⟨o.context, o.name, o.place.below⟩

theorem Occurrence.relabel_lineBelow : Occurrence.relabel lineBelow = Occurrence.below := rfl

/-- In a namespace or a linkage block the same names are found as without it, one line further down, and
the nesting may be one deeper; only a brace that closes too much is taken for the namespace's own. -/
theorem extract_around (head : NamespaceHead) (text : String) (limit : Nat)
    (h : ∀ place, (extract text limit).failed ≠ some (.unbalancedBrace place)) :
    (extract (head.around text) (limit + 1)).found = (extract text limit).found.map Occurrence.below ∧
      ((extract (head.around text) (limit + 1)).failed = none ↔ (extract text limit).failed = none) ∧
      ∀ e, (extract text limit).failed = some e → ∃ place, e = .nestingTooDeep place limit ∧
        (extract (head.around text) (limit + 1)).failed =
          some (.nestingTooDeep place.below (limit + 1)) := by
  obtain ⟨before, last, last', closing, hts, hclosed, hlast, hlast', hclosing⟩ :=
    tokensFrom_closed true .start text.toList
  have haround : extract (head.around text) (limit + 1) =
      (extractFrom (limit + 1) (Reading.within {}) (before ++ last' ++ closing)).relabel lineBelow := by
    rw [extract, head.tokens_around, head.extractFrom_head, ← hclosed]
    exact Reading.extractFrom_relabel lineBelow (limit + 1) (Reading.within {}) _
  have htext : extract text limit = extractFrom limit {} (before ++ last) := by
    rw [extract, tokens, hts]
  rcases Reading.run_cases limit {} before with
    ⟨s, found, hrun⟩ | ⟨first, t, rest, s, found, e, rfl, hrun, he⟩
  · obtain ⟨u, hquiet⟩ := Reading.run_of_isQuiet limit s hlast
    have hplain : extract text limit = ⟨found, none⟩ := by
      rw [htext, Reading.extractFrom_of_run (Reading.run_append hrun hquiet), List.append_nil]
    have hwithin : extract (head.around text) (limit + 1) = ⟨found.map Occurrence.below, none⟩ := by
      rw [haround, List.append_assoc, Reading.extractFrom_append (Reading.run_within hrun),
        Reading.extractFrom_within_closing hlast' hclosing]
      simp [Reading.after, Extraction.relabel, Occurrence.relabel_lineBelow]
    rw [hplain, hwithin]
    exact ⟨rfl, Iff.rfl, fun e he => by cases he⟩
  · have hplain : extract text limit = ⟨found, some e⟩ := by
      rw [htext, List.append_assoc, List.cons_append, Reading.extractFrom_of_error hrun he]
    rcases Reading.step_within_error he with rfl | ⟨rfl, hdeep⟩
    · exact absurd (by rw [hplain]) (h t.place)
    have hwithin : extract (head.around text) (limit + 1) =
        ⟨found.map Occurrence.below, some (.nestingTooDeep t.place.below (limit + 1))⟩ := by
      rw [haround]
      simp only [List.append_assoc, List.cons_append,
        Reading.extractFrom_of_error (Reading.run_within hrun) hdeep]
      rfl
    rw [hplain, hwithin]
    refine ⟨rfl, by simp, ?_⟩
    rintro _ ⟨⟩
    exact ⟨t.place, rfl, rfl⟩

/-- An unclosed comment takes in the brace that closes the namespace, and the record it stands in stays
open. -/
theorem extract_around_comment :
    (extract "struct S \x7b int x; /* open").found =
        [⟨.structType, "S", ⟨1, 8⟩⟩, ⟨.member .isPublic .variable, "x", ⟨1, 16⟩⟩] ∧
      (extract (NamespaceHead.linkage.around "struct S \x7b int x; /* open") 257).found =
        [⟨.structType, "S", ⟨2, 8⟩⟩, ⟨.member .isPublic .variable, "x", ⟨2, 16⟩⟩] := by
  have hplain : extract "struct S \x7b int x; /* open" =
      ⟨[⟨.structType, "S", ⟨1, 8⟩⟩, ⟨.member .isPublic .variable, "x", ⟨1, 16⟩⟩], none⟩ := by
    decide +kernel
  have haround := extract_around .linkage "struct S \x7b int x; /* open" defaultDepthLimit
    (fun place => by rw [hplain]; exact fun heq => by cases heq)
  refine ⟨by rw [hplain], ?_⟩
  rw [hplain] at haround
  exact haround.1

end NameLint.Declaration
