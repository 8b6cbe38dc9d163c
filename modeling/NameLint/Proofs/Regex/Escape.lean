import NameLint.Proofs.Regex.Reader
import NameLint.Regex.Escape

/-!
# Escapes in front of a closing parenthesis

What a backslash begins is read alike with and without a closing parenthesis behind the text. There is one
exception: braces behind `\b` without any visible character in them are refused at the end of the text, but
are left for a repetition when a parenthesis follows.
-/

namespace NameLint.Regex

open NameLint.Text NameLint.Unicode

namespace Flags

variable {p : Char → Bool}

/-! ## Runs and texts in braces -/

theorem takeRun_go_suffix (f : Flags) (p : Char → Bool) (started inComment : Bool) (cs : List Char) :
    (takeRun.go f p started inComment cs).2 <:+ cs := by
  induction cs generalizing started inComment with
  | nil => exact List.suffix_rfl
  | cons c cs ih =>
      simp only [takeRun.go]
      split
      next => exact (ih _ _).trans (List.suffix_cons c cs)
      next =>
        split
        next => exact (ih _ _).trans (List.suffix_cons c cs)
        next =>
          split
          next => exact (ih _ _).trans (List.suffix_cons c cs)
          next =>
            split
            next => exact (ih _ _).trans (List.suffix_cons c cs)
            next => exact List.suffix_rfl

theorem takeRun_go_comment (f : Flags) {cs : List Char} (h : '\n' ∉ cs) :
    takeRun.go f p true true cs = ([], []) := by
  induction cs with
  | nil => rfl
  | cons c cs ih =>
      obtain ⟨hc, hcs⟩ : '\n' ≠ c ∧ '\n' ∉ cs := by simpa using h
      simpa [takeRun.go, bne_iff_ne.mpr hc.symm] using ih hcs

/-- A closing parenthesis ends a run, unless it is in a comment. -/
theorem takeRun_go_append (f : Flags) (hp : p ')' = false) (started inComment : Bool) (cs : List Char) :
    (∀ after, takeRun.go f p started inComment (cs ++ ')' :: after) =
        ((takeRun.go f p started inComment cs).1,
          (takeRun.go f p started inComment cs).2 ++ ')' :: after)) ∨
      (takeRun.go f p started inComment cs).2 = [] ∧
        ∀ after, takeRun.go f p started inComment (cs ++ ')' :: after) =
          ((takeRun.go f p started inComment cs).1 ++ (takeRun.go f p true true after).1,
            (takeRun.go f p true true after).2) := by
  induction cs generalizing started inComment with
  | nil => cases inComment <;> simp [takeRun.go, hp]
  | cons c cs ih =>
      simp only [List.cons_append, takeRun.go]
      split
      next => exact ih _ _
      next =>
        split
        next => exact ih _ _
        next =>
          split
          next => exact ih _ _
          next =>
            split
            next =>
              rcases ih true false with h | ⟨hrest, h⟩
              · exact .inl fun after => by simp [h after]
              · exact .inr ⟨hrest, fun after => by simp [h after]⟩
            next => exact .inl fun _ => rfl

/-- Taking a run, as a reader. -/
def run (f : Flags) (p : Char → Bool) : Reader (List Char) := fun cs => some (f.takeRun p cs)

theorem regular_run (f : Flags) (hp : p ')' = false) : Reader.Regular Reader.Uncut (f.run p) where
  suffix cs x rest h := by
    obtain rfl : (f.takeRun p cs).2 = rest := by rw [Option.some.inj h]
    exact takeRun_go_suffix f p false false cs
  stops cs := by
    rcases f.takeRun_go_append hp false false cs with h | ⟨hcs, h⟩
    · exact .of_eq_some _ _ rfl fun after => by simp only [run, takeRun, h after]
    · refine .inr ⟨fun x rest hx => ?_, fun after x left hx => ?_⟩
      · obtain ⟨rfl, rfl⟩ : (f.takeRun p cs).1 = x ∧ (f.takeRun p cs).2 = rest := by
          simp [Option.some.inj hx]
        exact ⟨hcs, fun after hno => by simp [run, takeRun, h after, takeRun_go_comment f hno]⟩
      · obtain rfl : (f.takeRun p (cs ++ ')' :: after)).2 = left := by rw [Option.some.inj hx]
        simp only [takeRun, h after]
        exact .inl (takeRun_go_suffix f p true true after)

theorem upToBrace?_go_suffix (f : Flags) (inComment : Bool) (cs : List Char) :
    ∀ x rest, upToBrace?.go f inComment cs = some (x, rest) → rest <:+ cs := by
  induction cs generalizing inComment with
  | nil => simp [upToBrace?.go]
  | cons c cs ih =>
      intro x rest
      have hcons {left : List Char} (h : left <:+ cs) : left <:+ c :: cs := h.trans (List.suffix_cons c cs)
      simp only [upToBrace?.go]
      split
      next => exact fun h => hcons (ih _ x rest h)
      next =>
        split
        next => exact fun h => hcons (ih _ x rest h)
        next =>
          split
          next => exact fun h => hcons (ih _ x rest h)
          next =>
            split
            next => exact fun h => hcons (by simp_all)
            next =>
              intro h
              obtain ⟨⟨name, left⟩, hgo, heq⟩ := Option.map_eq_some_iff.mp h
              obtain ⟨-, rfl⟩ : c :: name = x ∧ left = rest := by simpa using heq
              exact hcons (ih _ name left hgo)

theorem stops_upToBrace?_go (f : Flags) (inComment : Bool) (cs : List Char) :
    Reader.Stops Reader.Uncut (upToBrace?.go f inComment) cs := by
  induction cs generalizing inComment with
  | nil =>
      refine .nil rfl fun after x left h => ?_
      cases inComment with
      | true => exact upToBrace?_go_suffix f true after x left (by simpa [upToBrace?.go] using h)
      | false =>
          obtain ⟨name, hgo, -⟩ :
              ∃ name, upToBrace?.go f false after = some (name, left) ∧ ')' :: name = x := by
            simpa [upToBrace?.go] using h
          exact upToBrace?_go_suffix f false after name left hgo
  | cons c cs ih =>
      cases inComment with
      | true => exact (ih (c != '\n')).congr (by simp [upToBrace?.go]) (by simp [upToBrace?.go])
      | false =>
          cases hblank : f.verbose && isBlank c with
          | true => exact (ih false).congr (by simp [upToBrace?.go, hblank]) (by simp [upToBrace?.go, hblank])
          | false =>
              cases hmark : f.verbose && c == '#' with
              | true =>
                  exact (ih true).congr (by simp only [upToBrace?.go, hblank, hmark]; simp)
                    (by simp only [List.cons_append, upToBrace?.go, hblank, hmark]; simp)
              | false =>
                  by_cases hbrace : c = '\x7d'
                  · subst hbrace
                    exact .of_eq_some [] cs (by simp only [upToBrace?.go, hblank, hmark]; rfl)
                      fun after => by simp only [List.cons_append, upToBrace?.go, hblank, hmark]; rfl
                  · exact ((ih false).map (k := (c :: ·)) fun _ _ => id).congr
                      (by simp only [upToBrace?.go, hblank, hmark, hbrace]; rfl)
                      fun after => by
                        simp only [List.cons_append, upToBrace?.go, hblank, hmark, hbrace]; rfl

theorem regular_upToBrace? (f : Flags) : Reader.Regular Reader.Uncut f.upToBrace? where
  suffix cs := upToBrace?_go_suffix f false cs
  stops cs := stops_upToBrace?_go f false cs

end Flags

/-! ## Characters by their code -/

theorem regular_readFixedHex? (f : Flags) (n : Nat) : Reader.Regular Reader.Uncut (readFixedHex? f n) := by
  induction n with
  | zero => exact .some []
  | succ n ih =>
      have hhead (c : Char) : Reader.Regular Reader.Uncut fun rest =>
          if (hexDigit? c).isSome then Reader.map (readFixedHex? f n) (c :: ·) rest else none := by
        split
        next => exact ih.map fun _ _ => id
        next => exact .none
      refine (f.regular_afterSkip (.onHead hhead)).congr fun cs => ?_
      cases h : f.skip cs <;> simp [readFixedHex?, h, Reader.onHead, Reader.map]

theorem regular_readHex? (f : Flags) (width : Nat) : Reader.Regular Reader.Uncut (readHex? f width) := by
  have hbraces : Reader.Regular Reader.Uncut (Reader.filterMap f.upToBrace? fun digits =>
      ((hexNumeral? digits).bind scalar?).map Atom.char) :=
    f.regular_upToBrace?.filterMap_of_uncut
  have hfixed : Reader.Regular Reader.Uncut (Reader.filterMap (readFixedHex? f width) fun digits =>
      ((hexNumeral? digits).bind scalar?).map fun c =>
        if width = 2 ∧ !f.unicode ∧ !isAscii c then Atom.byte c else .char c) :=
    (regular_readFixedHex? f width).filterMap_of_uncut
  refine (f.regular_afterSkip (.ifHead (c := '\x7b') (by decide) hbraces hfixed)).congr fun cs => ?_
  unfold readHex?
  split
  next rest h => simp [h, Reader.filterMap, Option.map_eq_bind, Option.bind_assoc]
  next h =>
    rw [Reader.ifHead_of_ne h]
    simp [Reader.filterMap, Option.map_eq_bind, Option.bind_assoc]

/-! ## Properties -/

theorem regular_readPropertyName? (f : Flags) : Reader.Regular Reader.Uncut (readPropertyName? f) := by
  have hbraces : Reader.Regular Reader.Uncut (Reader.filterMap f.upToBrace? propertyOf?) :=
    f.regular_upToBrace?.filterMap_of_uncut
  have hletter (c : Char) : Reader.Regular Reader.Uncut fun rest =>
      (if c = '\\' then none else (Property.ofName? [c]).map (·, false)).map (·, rest) := .option _
  refine (f.regular_afterSkip (.ifHead (c := '\x7b') (by decide) hbraces (.onHead hletter))).congr
    fun cs => ?_
  unfold readPropertyName?
  split
  next h => simp [h, Reader.ifHead, Reader.onHead]
  next rest h => simp [h, Reader.filterMap]
  next c rest hne h =>
    rw [h, Reader.ifHead_of_ne (by simpa using hne)]
    split
    next hc => simp [Reader.onHead, hc]
    next hc => simp [Reader.onHead, hc, Function.comp_def]

theorem regular_readProperty? (f : Flags) (negated : Bool) :
    Reader.Regular Reader.Uncut (readProperty? f negated) := by
  refine ((regular_readPropertyName? f).filterMap_of_uncut (k := fun (property, others) =>
    if f.unicode then (f.finishSet? (negated != others) (.property property)).map Atom.set
    else none)).congr fun cs => ?_
  simp only [readProperty?, Reader.filterMap]
  cases h : readPropertyName? f cs with
  | none => rfl
  | some read =>
      obtain ⟨⟨property, others⟩, rest⟩ := read
      cases f.unicode <;> simp [Option.map_eq_bind, Option.bind_assoc]

/-! ## Word boundaries -/

/-- Braces without any visible character in them. -/
def Unfilled (f : Flags) (cs : List Char) : Prop :=
  ∃ inner, cs = '\x7b' :: inner ∧ f.skip inner = []

/-- The side of a word that a word in braces stands for. -/
def boundaryOf? (f : Flags) (word : List Char) : Option Anchor :=
  match String.ofList word with
  | "start" => some (.wordStart f.wordRule)
  | "end" => some (.wordEnd f.wordRule)
  | "start-half" => some (.wordStartHalf f.wordRule)
  | "end-half" => some (.wordEndHalf f.wordRule)
  | _ => none

@[simp] theorem Flags.skip_openBrace (f : Flags) (rest : List Char) :
    f.skip ('\x7b' :: rest) = '\x7b' :: rest := by
  have hblank : isBlank '\x7b' = false := by decide
  simp [Flags.skip, Flags.dropIgnored, hblank]

/-- A word in braces, behind the opening brace. -/
def boundaryWord (f : Flags) : Reader Anchor :=
  (f.run fun c => c.isAlpha || c == '-').andThen fun word =>
    .ifHead '\x7d' (fun rest => (boundaryOf? f word).map (·, rest)) fun _ => none

theorem regular_boundaryWord (f : Flags) : Reader.Regular Reader.Uncut (boundaryWord f) := by
  exact (f.regular_run (by decide)).andThen_of_uncut fun word => .ifHead (by decide) (.option _) .none

theorem readBoundary?_of_ne {f : Flags} {cs : List Char} (h : ∀ inner, cs = '\x7b' :: inner → False) :
    readBoundary? f cs = some (.wordBoundary f.wordRule, cs) := by
  unfold readBoundary?
  split
  next inner => exact (h inner rfl).elim
  next => rfl

theorem readBoundary?_brace (f : Flags) (inner : List Char) :
    readBoundary? f ('\x7b' :: inner) =
      match f.skip inner with
      | [] => none
      | c :: rest =>
        if c.isAlpha || c == '-' then boundaryWord f (c :: rest)
        else some (.wordBoundary f.wordRule, '\x7b' :: inner) := by
  cases hinner : f.skip inner with
  | nil => simp [readBoundary?, hinner]
  | cons c rest =>
      cases hc : c.isAlpha || c == '-' with
      | false => simp [readBoundary?, hinner, hc]
      | true =>
          simp only [readBoundary?, hinner, hc, Bool.not_true, Bool.false_eq_true, ↓reduceIte, boundaryWord,
            Reader.andThen, Flags.run, Option.bind_some]
          split
          next rest h =>
            simp only [h, Reader.ifHead_cons_self, boundaryOf?]
            split <;> simp_all
          next h => rw [Reader.ifHead_of_ne h]

theorem readBoundary?_suffix (f : Flags) (cs : List Char) :
    ∀ x rest, readBoundary? f cs = some (x, rest) → rest <:+ cs := by
  intro x rest h
  by_cases hcs : ∃ inner, cs = '\x7b' :: inner
  · obtain ⟨inner, rfl⟩ := hcs
    rw [readBoundary?_brace] at h
    split at h
    next => simp at h
    next c left hinner =>
      split at h
      next =>
        have hleft : rest <:+ f.skip inner := hinner ▸ (regular_boundaryWord f).suffix _ _ _ h
        exact (hleft.trans (f.skip_suffix inner)).trans (List.suffix_cons _ _)
      next =>
        obtain ⟨-, rfl⟩ : _ ∧ '\x7b' :: inner = rest := by simpa using h
        exact List.suffix_rfl
  · rw [readBoundary?_of_ne fun inner h => hcs ⟨inner, h⟩] at h
    obtain ⟨-, rfl⟩ : _ ∧ cs = rest := by simpa using h
    exact List.suffix_rfl

theorem regular_readBoundary? (f : Flags) :
    Reader.Regular (fun _ => Unfilled f) (readBoundary? f) where
  suffix := readBoundary?_suffix f
  stops cs := by
    by_cases hcs : ∃ inner, cs = '\x7b' :: inner
    · obtain ⟨inner, rfl⟩ := hcs
      cases hinner : f.skip inner with
      | nil =>
          have hnone : readBoundary? f ('\x7b' :: inner) = none := by rw [readBoundary?_brace, hinner]
          refine .inr ⟨fun x rest hx => by simp [hnone] at hx, fun after x left hx => ?_⟩
          rw [List.cons_append, readBoundary?_brace] at hx
          split at hx
          next => simp at hx
          next c rest hafter =>
            split at hx
            next hc =>
              have hleft := (regular_boundaryWord f).suffix _ _ _ hx
              rcases f.skip_append inner with h | ⟨-, h⟩
              · obtain ⟨rfl, rfl⟩ : ')' = c ∧ after = rest := by simpa [h, hinner] using hafter
                exact absurd hc (by decide)
              · rw [← hafter, h] at hleft
                exact .inl (hleft.trans (Flags.dropIgnored_suffix true after))
            next =>
              obtain ⟨-, rfl⟩ : _ ∧ '\x7b' :: (inner ++ ')' :: after) = left := by simpa using hx
              exact .inr ⟨hnone, '\x7b' :: inner, rfl, inner, rfl, hinner⟩
      | cons c rest =>
          have hafter : ∀ after, f.skip (inner ++ ')' :: after) = c :: rest ++ ')' :: after := by
            rcases f.skip_append inner with h | ⟨h, -⟩
            · exact fun after => by rw [h, hinner]
            · simp [hinner] at h
          cases hc : c.isAlpha || c == '-' with
          | true =>
              exact (((regular_boundaryWord f).stops (c :: rest)).mono fun _ _ => False.elim).congr
                (by simp [readBoundary?_brace, hinner, hc])
                fun after => by simp [readBoundary?_brace, hafter, hc]
          | false =>
              exact .of_eq_some (.wordBoundary f.wordRule) ('\x7b' :: inner)
                (by simp [readBoundary?_brace, hinner, hc])
                fun after => by simp [readBoundary?_brace, hafter, hc]
    · have hne : ∀ inner, cs = '\x7b' :: inner → False := fun inner h => hcs ⟨inner, h⟩
      refine .of_eq_some _ _ (readBoundary?_of_ne hne) fun after => readBoundary?_of_ne fun inner h => ?_
      cases cs with
      | nil => simp at h
      | cons c cs => exact hne cs (by simp_all)

/-! ## Escapes -/

/-- What may be cut short of an escape: a word boundary in front of unfilled braces. -/
def CutEscape (f : Flags) (atom : Atom) (rest : List Char) : Prop :=
  (∃ a, atom = .anchor a) ∧ Unfilled f rest

/-- What follows the first character of an escape. -/
def escapeTail (f : Flags) (c : Char) : Reader Atom :=
  match c with
  | 'x' => readHex? f 2
  | 'u' => readHex? f 4
  | 'U' => readHex? f 8
  | 'p' => readProperty? f false
  | 'P' => readProperty? f true
  | 'b' => Reader.map (readBoundary? f) Atom.anchor
  | _ => fun rest => (readEscape? f [c]).map fun (atom, _) => (atom, rest)

theorem readEscape?_cons (f : Flags) (c : Char) (rest : List Char) :
    readEscape? f (c :: rest) = escapeTail f c rest := by
  unfold escapeTail
  split
  · rfl
  · rfl
  · rfl
  · rfl
  · rfl
  · rfl
  · simp only [readEscape?]
    split <;> simp_all [Function.comp_def]

theorem regular_readEscape? (f : Flags) : Reader.Regular (CutEscape f) (readEscape? f) := by
  have htail (c : Char) : Reader.Regular (CutEscape f) (escapeTail f c) := by
    unfold escapeTail
    split
    · exact (regular_readHex? f 2).of_uncut
    · exact (regular_readHex? f 4).of_uncut
    · exact (regular_readHex? f 8).of_uncut
    · exact (regular_readProperty? f false).of_uncut
    · exact (regular_readProperty? f true).of_uncut
    · exact (regular_readBoundary? f).map fun a rest h => ⟨⟨a, rfl⟩, h⟩
    · exact (Reader.Regular.option ((readEscape? f [c]).map (·.1))).congr fun cs => by
        simp [Function.comp_def]
  refine (Reader.Regular.onHead htail).congr fun cs => ?_
  cases cs with
  | nil => rfl
  | cons c rest => exact readEscape?_cons f c rest

end NameLint.Regex
