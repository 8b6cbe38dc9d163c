import NameLint.Proofs.Regex.Escape
import NameLint.Regex.Bracket

/-!
# Classes in front of a closing parenthesis

In brackets a parenthesis is a character like any other. So a class that is still open at the end of the text
takes in a closing parenthesis behind it, and one that is closed is read alike with and without.
-/

namespace NameLint.Regex

open NameLint.Unicode

/-! ## Named classes and what a hyphen sees -/

/-- The name of a class up to the `:]` that ends it. -/
def readClassName? (cs : List Char) : Option (CharSet × List Char) :=
  match cs.dropWhile (· != ':') with
  | ':' :: ']' :: rest =>
    (asciiClasses.lookup (String.ofList (cs.takeWhile (· != ':')))).map (·, rest)
  | _ => none

theorem readAsciiClass?_eq (cs : List Char) :
    readAsciiClass? (':' :: cs) =
      (readClassName? (if cs.head? == some '^' then cs.drop 1 else cs)).map
        fun (set, rest) => ((set, cs.head? == some '^'), rest) := by
  simp only [readAsciiClass?, readClassName?]
  generalize (if cs.head? == some '^' then cs.drop 1 else cs) = name
  split <;> simp [*, Function.comp_def]

theorem readClassName?_suffix (cs : List Char) :
    ∀ x rest, readClassName? cs = some (x, rest) → rest <:+ cs := by
  intro x rest h
  unfold readClassName? at h
  split at h
  next left hcs =>
    obtain rfl : left = rest := Reader.eq_of_map_eq_some h
    have hdrop : ':' :: ']' :: left <:+ cs := hcs ▸ List.dropWhile_suffix _
    exact ((List.suffix_cons _ left).trans (List.suffix_cons _ _)).trans hdrop
  next => simp at h

theorem readAsciiClass?_suffix (cs : List Char) :
    ∀ x rest, readAsciiClass? cs = some (x, rest) → rest <:+ cs := by
  intro x rest h
  match cs with
  | [] => simp [readAsciiClass?] at h
  | c :: cs =>
      by_cases hc : c = ':'
      · subst hc
        rw [readAsciiClass?_eq] at h
        obtain ⟨⟨set, left⟩, hname, heq⟩ := Option.map_eq_some_iff.mp h
        obtain ⟨-, rfl⟩ : _ ∧ left = rest := by simpa using heq
        have hleft := readClassName?_suffix _ set left hname
        refine List.IsSuffix.trans ?_ (List.suffix_cons _ cs)
        split at hleft
        next => exact hleft.trans (List.drop_suffix 1 cs)
        next => exact hleft
      · simp [readAsciiClass?, hc] at h

theorem lookup_asciiClasses_of_mem {name : List Char} (h : ')' ∈ name) :
    asciiClasses.lookup (String.ofList name) = none := by
  have hno : ∀ entry ∈ asciiClasses, ')' ∉ entry.1.toList := by decide
  rw [List.lookup_eq_none_iff]
  intro entry hentry
  refine bne_iff_ne.mpr fun heq => hno entry hentry ?_
  simpa [← heq] using h

/-- The name of a class has no parenthesis in it. -/
theorem readClassName?_append (cs after : List Char) :
    readClassName? (cs ++ ')' :: after) =
      (readClassName? cs).map fun (read, rest) => (read, rest ++ ')' :: after) := by
  unfold readClassName?
  cases hcs : cs.dropWhile (· != ':') with
  | nil =>
      have hall : cs.takeWhile (· != ':') = cs := by
        simpa [hcs] using List.takeWhile_append_dropWhile (p := (· != ':')) (l := cs)
      have hmem : ')' ∈ (cs ++ ')' :: after).takeWhile (· != ':') := by
        simp [List.takeWhile_append, hall]
      rw [lookup_asciiClasses_of_mem hmem]
      split <;> rfl
  | cons c tail =>
      rw [dropWhile_append_of_eq_cons hcs, takeWhile_append_of_eq_cons hcs]
      match tail with
      | [] => simp
      | d :: tail =>
          by_cases hd : c = ':' ∧ d = ']'
          · obtain ⟨rfl, rfl⟩ := hd
            simp [Function.comp_def]
          · have hne (rest : List Char) : (match c :: d :: rest with
                | ':' :: ']' :: rest =>
                  (asciiClasses.lookup (String.ofList (cs.takeWhile (· != ':')))).map (·, rest)
                | _ => none) = none := by
              split <;> simp_all
            simp only [List.cons_append, hne, Option.map_none]

theorem readAsciiClass?_append (cs after : List Char) :
    readAsciiClass? (cs ++ ')' :: after) =
      (readAsciiClass? cs).map fun (read, rest) => (read, rest ++ ')' :: after) := by
  match cs with
  | [] => rfl
  | c :: cs =>
      by_cases hc : c = ':'
      · subst hc
        have hhead : ((cs ++ ')' :: after).head? == some '^') = (cs.head? == some '^') := by
          cases cs <;> rfl
        have hname : (if cs.head? == some '^' then (cs ++ ')' :: after).drop 1 else cs ++ ')' :: after) =
            (if cs.head? == some '^' then cs.drop 1 else cs) ++ ')' :: after := by
          cases cs with
          | nil => rfl
          | cons d cs => by_cases hd : d = '^' <;> simp [hd]
        rw [List.cons_append, readAsciiClass?_eq, readAsciiClass?_eq, hhead, hname, readClassName?_append]
        simp [Function.comp_def]
      · simp [readAsciiClass?, hc]

/-- A hyphen sees a bracket or a hyphen behind it only in what the text itself holds. -/
theorem peek_append (f : Flags) {c : Char} (hparen : c ≠ ')') (hmark : c ≠ '#') (hblank : isBlank c = false)
    (rest after : List Char) : peek f (rest ++ ')' :: after) = some c ↔ peek f rest = some c := by
  unfold peek
  split
  next => cases rest <;> simp [hparen.symm]
  next =>
    rw [dropWhile_isBlank_append]
    have hhead : rest.head? = some c → (rest.dropWhile isBlank).head? = some c := by
      intro h
      cases rest with
      | nil => simp at h
      | cons d rest =>
          obtain rfl : d = c := by simpa using h
          simp [hblank]
    cases hrest : rest.dropWhile isBlank with
    | nil =>
        have hne : rest.head? ≠ some c := fun h => by simpa [hrest] using hhead h
        simp [hne, hparen.symm]
    | cons d tail =>
        by_cases hd : d = '#'
        · subst hd
          have hne : rest.head? ≠ some c := fun h => by simpa [hrest, hmark.symm] using hhead h
          simp only [List.cons_append, dropWhile_isBlank_append]
          cases tail.dropWhile isBlank with
          | nil => simp [hne, hparen.symm]
          | cons e tail => simp
        · simp [hd]

/-! ## Opening a bracket -/

/-- Whether a caret comes first; what verbose mode ignores behind it is passed over. -/
def readCaret (f : Flags) : Reader Bool :=
  .ifHead '^' (fun rest => some (true, f.skip rest)) fun cs => some (false, cs)

theorem regular_readCaret (f : Flags) : Reader.Regular Reader.Uncut (readCaret f) :=
  .ifHead (by decide) (f.regular_afterSkip (.some true)) (.some false)

/-- The first items of a bracket behind its hyphens: a closing bracket, if there were none. -/
def readFirstItems (f : Flags) (inner : BracketState) : Reader BracketState :=
  if inner.items.isEmpty then
    .ifHead ']' (fun rest => Reader.unlessSpent (inner.add (.single ']') 0) (f.skip rest)) (.unlessSpent inner)
  else .unlessSpent inner

theorem regular_readFirstItems (f : Flags) (inner : BracketState) :
    Reader.Regular Reader.Spent (readFirstItems f inner) := by
  unfold readFirstItems
  split
  next => exact .ifHead (by decide) (f.regular_afterSkip (.unlessSpent _)) (.unlessSpent _)
  next => exact .unlessSpent _

theorem readFirstItems_eq (f : Flags) (inner : BracketState) (cs : List Char) :
    readFirstItems f inner cs =
      match cs with
      | [] => none
      | ']' :: rest =>
        if inner.items.isEmpty then
          if (f.skip rest).isEmpty then none else some (inner.add (.single ']') 0, f.skip rest)
        else some (inner, cs)
      | _ => some (inner, cs) := by
  unfold readFirstItems
  match cs with
  | [] => split <;> rfl
  | c :: cs =>
      by_cases hc : c = ']'
      · subst hc
        split <;> simp [Reader.unlessSpent, *]
      · split <;> simp [Reader.ifHead, Reader.unlessSpent, hc]

theorem openBracket?_eq (f : Flags) (st : BracketState) (cs : List Char) :
    openBracket? f st cs =
      ((readCaret f).andThen fun negated => (f.run (· == '-')).andThen fun hyphens =>
        readFirstItems f (hyphens.foldl (fun st c => st.add (.single c) 0)
          ⟨.bracket st.items negated :: st.frames, []⟩)) (f.skip cs) := by
  have hcaret : readCaret f (f.skip cs) = some ((f.skip cs).head? == some '^',
      if (f.skip cs).head? == some '^' then f.skip ((f.skip cs).drop 1) else f.skip cs) := by
    unfold readCaret
    cases f.skip cs with
    | nil => rfl
    | cons c rest => by_cases hc : c = '^' <;> simp [Reader.ifHead, hc]
  simp only [Reader.andThen, hcaret, Option.bind_some, Flags.run]
  exact (readFirstItems_eq ..).symm

theorem regular_openBracket? (f : Flags) (st : BracketState) :
    Reader.Regular Reader.Spent (openBracket? f st) :=
  (f.regular_afterSkip <| (regular_readCaret f).andThen_of_uncut fun _ =>
    (f.regular_run (by decide)).andThen_of_uncut fun _ => regular_readFirstItems f _).congr
      fun cs => openBracket?_eq f st cs

/-! ## Items and ranges -/

theorem regular_readClassAtom? (f : Flags) : Reader.Regular (CutEscape f) (readClassAtom? f) := by
  have htail (c : Char) : Reader.Regular (CutEscape f) fun rest => some (Atom.char c, rest) := .some _
  refine (Reader.Regular.ifHead (c := '\\') (by decide) (regular_readEscape? f) (.onHead htail)).congr
    fun cs => ?_
  unfold readClassAtom?
  split
  next => rfl
  next => rfl
  next c rest hne => rw [Reader.ifHead_of_ne (by simpa using hne)]; rfl

theorem consumes_readClassAtom? (f : Flags) : Reader.Consumes (readClassAtom? f) := by
  refine .of_suffix (fun c cs x rest h => ?_) rfl
  unfold readClassAtom? at h
  split at h
  next => simp at h
  next heq =>
    obtain ⟨rfl, rfl⟩ : _ ∧ _ := by simpa using heq
    exact (regular_readEscape? f).suffix _ _ _ h
  next heq =>
    obtain ⟨rfl, rfl⟩ : _ ∧ _ := by simpa using heq
    obtain ⟨-, rfl⟩ : _ ∧ _ := by simpa using h
    exact List.suffix_rfl

/-- The class with a range added, if both ends may stand in one. -/
def addRange? (f : Flags) (st : BracketState) (first last : Atom) : Option BracketState := do
  let a ← first.char?
  let b ← last.char?
  if a ≤ b ∧ first.isClassChar f ∧ last.isClassChar f then return st.add (.range a b) 0 else none

/-- What may follow the first item: a hyphen and the end of a range, or what does not belong to the item. -/
def readRangeEnd (f : Flags) (st : BracketState) (first : Atom) : Reader BracketState
  | [] => none
  | '-' :: after =>
    if peek f after = some ']' ∨ peek f after = some '-' then
      (first.classSet? f).map fun set => (st.add set 0, '-' :: after)
    else Reader.filterMap (fun cs => readClassAtom? f (f.skip cs)) (addRange? f st first) after
  | rest => (first.classSet? f).map fun set => (st.add set 0, rest)

theorem readRangeEnd_of_ne {f : Flags} {st : BracketState} {first : Atom} {c : Char} {rest : List Char}
    (h : c ≠ '-') :
    readRangeEnd f st first (c :: rest) = (first.classSet? f).map fun set => (st.add set 0, c :: rest) := by
  unfold readRangeEnd
  split <;> simp_all

theorem readRange?_eq (f : Flags) (st : BracketState) (cs : List Char) :
    readRange? f st cs =
      (Reader.andThen (readClassAtom? f) fun first cs => readRangeEnd f st first (f.skip cs)) cs := by
  simp only [readRange?, Reader.andThen]
  refine congrArg (Option.bind _) (funext fun read => ?_)
  obtain ⟨first, rest⟩ := read
  cases f.skip rest with
  | nil => rfl
  | cons c after =>
      by_cases hc : c = '-'
      · subst hc
        simp only [readRangeEnd, addRange?, Reader.filterMap]
        split
        next => cases first.classSet? f <;> rfl
        next =>
          cases readClassAtom? f (f.skip after) with
          | none => rfl
          | some read =>
              obtain ⟨last, rest⟩ := read
              simp only [Option.bind_eq_bind, Option.bind_some]
              cases first.char? with
              | none => rfl
              | some a =>
                  simp only [Option.bind_some]
                  cases last.char? with
                  | none => rfl
                  | some b => simp only [Option.bind_some]; split <;> rfl
      · rw [readRangeEnd_of_ne hc]
        cases first.classSet? f <;> simp [hc]

theorem regular_rangeLast (f : Flags) (st : BracketState) (first : Atom) :
    Reader.Regular Reader.Uncut
      (Reader.filterMap (fun cs => readClassAtom? f (f.skip cs)) (addRange? f st first)) := by
  refine (f.regular_afterSkip (regular_readClassAtom? f)).filterMap ?_
  rintro last rest ⟨⟨a, rfl⟩, -⟩ st' h
  simp [addRange?, Atom.char?] at h

theorem readRangeEnd_suffix (f : Flags) (st : BracketState) (first : Atom) (cs : List Char) :
    ∀ x rest, readRangeEnd f st first cs = some (x, rest) → rest <:+ cs := by
  intro x rest h
  cases cs with
  | nil => simp [readRangeEnd] at h
  | cons c after =>
      by_cases hc : c = '-'
      · subst hc
        simp only [readRangeEnd] at h
        split at h
        next =>
          obtain rfl : '-' :: after = rest := Reader.eq_of_map_eq_some h
          exact List.suffix_rfl
        next =>
          exact ((regular_rangeLast f st first).suffix after x rest h).trans (List.suffix_cons _ after)
      · rw [readRangeEnd_of_ne hc] at h
        obtain rfl : c :: after = rest := Reader.eq_of_map_eq_some h
        exact List.suffix_rfl

theorem regular_readRangeEnd (f : Flags) (st : BracketState) (first : Atom) :
    Reader.Regular Reader.Spent (readRangeEnd f st first) where
  suffix := readRangeEnd_suffix f st first
  stops cs := by
    cases cs with
    | nil =>
        refine .inr ⟨fun x rest h => by simp [readRangeEnd] at h, fun after x left h => ?_⟩
        rw [List.nil_append, readRangeEnd_of_ne (by decide)] at h
        obtain rfl : ')' :: after = left := Reader.eq_of_map_eq_some h
        exact .inr ⟨rfl, [], rfl, rfl⟩
    | cons c cs =>
        by_cases hc : c = '-'
        · subst hc
          have hpeek (after : List Char) : (peek f (cs ++ ')' :: after) = some ']' ∨
              peek f (cs ++ ')' :: after) = some '-') ↔ (peek f cs = some ']' ∨ peek f cs = some '-') :=
            or_congr (peek_append f (by decide) (by decide) (by decide) cs after)
              (peek_append f (by decide) (by decide) (by decide) cs after)
          by_cases hsees : peek f cs = some ']' ∨ peek f cs = some '-'
          · exact .of_eq_map (first.classSet? f) (fun set => st.add set 0) ('-' :: cs)
              (by simp only [readRangeEnd, if_pos hsees])
              fun after => by simp only [List.cons_append, readRangeEnd, if_pos ((hpeek after).mpr hsees)]
          · exact ((regular_rangeLast f st first).of_uncut.stops cs).congr
              (by simp only [readRangeEnd, if_neg hsees])
              fun after => by
                simp only [List.cons_append, readRangeEnd, if_neg (mt (hpeek after).mp hsees)]
        · exact .of_eq_map _ _ _ (readRangeEnd_of_ne hc) fun after => readRangeEnd_of_ne hc

theorem regular_readRange? (f : Flags) (st : BracketState) :
    Reader.Regular Reader.Spent (readRange? f st) := by
  refine ((regular_readClassAtom? f).andThen (k := fun first cs => readRangeEnd f st first (f.skip cs))
    (fun first => f.regular_afterSkip (regular_readRangeEnd f st first)) ?_).congr
    (readRange?_eq f st)
  -- A boundary that is cut short is no item of a class.
  rintro first rest ⟨⟨a, rfl⟩, inner, rfl, -⟩ y left h
  rw [Flags.skip_openBrace, readRangeEnd_of_ne (by decide)] at h
  simp [Atom.classSet?] at h

theorem consumes_readRange? (f : Flags) (st : BracketState) : Reader.Consumes (readRange? f st) := by
  intro cs x rest h
  rw [readRange?_eq] at h
  exact (consumes_readClassAtom? f).andThen
    (fun first => f.regular_afterSkip (regular_readRangeEnd f st first)) cs x rest h

/-! ## Steps and whole classes -/

/-- What a step leads to, and what is left after it: the whole class, or a class still open. -/
def BracketStep.outcome : BracketStep → (ClassItem ⊕ BracketState) × List Char
  | .closed item rest => (.inl item, rest)
  | .more st rest => (.inr st, rest)

/-- One step of reading a class, as a reader. -/
def bracketStep (f : Flags) (st : BracketState) : Reader (ClassItem ⊕ BracketState) :=
  fun cs => (stepBracket? f st cs).map BracketStep.outcome

/-- Only a class that is still open is cut short. -/
def CutClass (step : ClassItem ⊕ BracketState) (rest : List Char) : Prop :=
  (∃ st, step = .inr st) ∧ rest = []

/-- What an opening bracket within a class begins: a named class, or a class in brackets. -/
def readInnerClass (f : Flags) (st : BracketState) : Reader (ClassItem ⊕ BracketState) :=
  fun cs =>
    match readAsciiClass? cs with
    | some ((set, negated), rest) => (f.finishSet? negated set).map fun set => (.inr (st.add set 0), rest)
    | none => Reader.map (openBracket? f st) .inr cs

theorem readInnerClass_of_some {f : Flags} {st : BracketState} {cs rest : List Char} {set : CharSet}
    {negated : Bool} (h : readAsciiClass? cs = some ((set, negated), rest)) :
    readInnerClass f st cs = (f.finishSet? negated set).map fun set => (.inr (st.add set 0), rest) := by
  simp only [readInnerClass, h]

theorem readInnerClass_of_none {f : Flags} {st : BracketState} {cs : List Char}
    (h : readAsciiClass? cs = none) : readInnerClass f st cs = Reader.map (openBracket? f st) .inr cs := by
  simp only [readInnerClass, h]

theorem regular_readInnerClass (f : Flags) (st : BracketState) :
    Reader.Regular CutClass (readInnerClass f st) := by
  have hopen : Reader.Regular CutClass (Reader.map (openBracket? f st) .inr) :=
    (regular_openBracket? f st).map fun st rest h => ⟨⟨st, rfl⟩, h⟩
  refine ⟨fun cs x rest h => ?_, fun cs => ?_⟩
  · cases hname : readAsciiClass? cs with
    | none => exact hopen.suffix cs x rest (readInnerClass_of_none hname ▸ h)
    | some read =>
        rw [readInnerClass_of_some hname] at h
        obtain rfl : read.2 = rest := Reader.eq_of_map_eq_some h
        exact readAsciiClass?_suffix cs read.1 read.2 hname
  · cases hname : readAsciiClass? cs with
    | none =>
        exact (hopen.stops cs).congr (readInnerClass_of_none hname) fun after =>
          readInnerClass_of_none (by rw [readAsciiClass?_append, hname]; rfl)
    | some read =>
        exact .of_eq_map _ _ _ (readInnerClass_of_some hname) fun after =>
          readInnerClass_of_some (by rw [readAsciiClass?_append, hname]; rfl)

/-- The class that a closing bracket leads to. -/
def closedClass? (f : Flags) (st : BracketState) : Option (ClassItem ⊕ BracketState) :=
  (closeBracket? f st []).map fun step => step.outcome.1

theorem closeBracket?_eq (f : Flags) (st : BracketState) (rest : List Char) :
    (closeBracket? f st rest).map BracketStep.outcome = (closedClass? f st).map (·, rest) := by
  unfold closedClass? closeBracket?
  rcases st.settle f with ⟨inner, frames⟩
  match frames with
  | [] => rfl
  | .operation op left :: frames => rfl
  | .bracket before negated :: frames =>
      simp only [Option.bind_eq_bind]
      cases f.finishSet? negated inner.set with
      | none => rfl
      | some set => simp only [Option.bind_some]; split <;> rfl

/-- A step behind blanks and comments. -/
def visibleStep (f : Flags) (st : BracketState) : Reader (ClassItem ⊕ BracketState) :=
  .ifHead '[' (readInnerClass f st) <|
    .ifHead ']' (fun rest => (closedClass? f st).map (·, rest)) <|
      .ifBoth '&' '&' (fun rest => some (.inr (st.operator f .inter), rest)) <|
        .ifBoth '-' '-' (fun rest => some (.inr (st.operator f .diff), rest)) <|
          .ifBoth '~' '~' (fun rest => some (.inr (st.operator f .symmDiff), rest)) <|
            Reader.map (readRange? f st) .inr

theorem bracketStep_eq (f : Flags) (st : BracketState) (cs : List Char) :
    bracketStep f st cs = visibleStep f st (f.skip cs) := by
  unfold bracketStep stepBracket?
  split
  next h => rw [h]; rfl
  next rest h =>
    have hvisible : visibleStep f st ('[' :: rest) = readInnerClass f st rest := Reader.ifHead_cons_self ..
    rw [h, hvisible]
    cases hname : readAsciiClass? rest with
    | none =>
        rw [readInnerClass_of_none hname]
        simp [Reader.map, Function.comp_def, BracketStep.outcome]
    | some read =>
        rw [readInnerClass_of_some hname]
        simp [Function.comp_def, BracketStep.outcome]
  next rest h => rw [h, closeBracket?_eq]; rfl
  next rest h => rw [h]; rfl
  next rest h => rw [h]; rfl
  next rest h => rw [h]; rfl
  next hopen hclose hand hminus htilde =>
    rw [visibleStep, Reader.ifHead_of_ne hopen, Reader.ifHead_of_ne hclose, Reader.ifBoth_of_ne hand,
      Reader.ifBoth_of_ne hminus, Reader.ifBoth_of_ne htilde]
    simp [Reader.map, Function.comp_def, BracketStep.outcome]

theorem regular_bracketStep (f : Flags) (st : BracketState) : Reader.Regular CutClass (bracketStep f st) := by
  have hrange : Reader.Regular CutClass (Reader.map (readRange? f st) .inr) :=
    (regular_readRange? f st).map fun st rest h => ⟨⟨st, rfl⟩, h⟩
  have hvisible : Reader.Regular CutClass (visibleStep f st) :=
    .ifHead (by decide) (regular_readInnerClass f st) <| .ifHead (by decide) (.option _) <|
      .ifBoth (by decide) (by decide) (.some _) <| .ifBoth (by decide) (by decide) (.some _) <|
        .ifBoth (by decide) (by decide) (.some _) hrange
  exact (f.regular_afterSkip hvisible).congr (bracketStep_eq f st)

theorem consumes_bracketStep (f : Flags) (st : BracketState) : Reader.Consumes (bracketStep f st) := by
  have hrange : Reader.Consumes
      (Reader.map (readRange? f st) (.inr : BracketState → ClassItem ⊕ BracketState)) := by
    intro cs x rest h
    obtain ⟨⟨st', left⟩, hread, heq⟩ := Option.map_eq_some_iff.mp h
    obtain ⟨-, rfl⟩ : _ ∧ left = rest := by simpa using heq
    exact consumes_readRange? f st cs st' left hread
  have hvisible : Reader.Consumes (visibleStep f st) :=
    have hoption : Reader.Regular CutClass fun rest => (closedClass? f st).map (·, rest) := .option _
    have hsome (op : SetOperation) : Reader.Regular CutClass fun rest =>
      some (Sum.inr (st.operator f op), rest) := .some _
    .ifHead (regular_readInnerClass f st) <| .ifHead hoption <|
      .ifBoth (hsome .inter) <| .ifBoth (hsome .diff) <| .ifBoth (hsome .symmDiff) hrange
  intro cs x rest h
  rw [bracketStep_eq] at h
  exact Nat.lt_of_lt_of_le (hvisible _ x rest h) (f.length_skip_le cs)

/-- What comes after a step: nothing behind the whole class, and more steps within one that is open. -/
def afterStep (f : Flags) : ClassItem ⊕ BracketState → Reader ClassItem
  | .inl item => fun rest => some (item, rest)
  | .inr st => readBracketFrom? f st

theorem readBracketFrom?_eq (f : Flags) (st : BracketState) (cs : List Char) :
    readBracketFrom? f st cs = (bracketStep f st).andThen (afterStep f) cs := by
  rw [readBracketFrom?]
  have hlt := consumes_bracketStep f st cs
  unfold Reader.andThen bracketStep at *
  cases hstep : stepBracket? f st cs with
  | none => rfl
  | some step =>
      cases step with
      | closed item rest => rfl
      | more st' rest =>
          have : rest.length < cs.length := hlt (.inr st') rest (by simp [hstep, BracketStep.outcome])
          simp [this, BracketStep.outcome, afterStep]

@[simp] theorem readBracketFrom?_nil (f : Flags) (st : BracketState) : readBracketFrom? f st [] = none := by
  rw [readBracketFrom?]
  simp [stepBracket?]

theorem readBracketFrom?_suffix (f : Flags) (st : BracketState) (cs : List Char) :
    ∀ x rest, readBracketFrom? f st cs = some (x, rest) → rest <:+ cs := by
  intro x rest h
  rw [readBracketFrom?_eq] at h
  obtain ⟨⟨step, left⟩, hstep, h⟩ := Option.bind_eq_some_iff.mp h
  have hlt := consumes_bracketStep f st cs step left hstep
  have hleft := (regular_bracketStep f st).suffix cs step left hstep
  match step with
  | .inl item =>
      obtain ⟨-, rfl⟩ : item = x ∧ left = rest := by simpa [afterStep] using h
      exact hleft
  | .inr st' => exact (readBracketFrom?_suffix f st' left x rest h).trans hleft
termination_by cs.length

theorem afterStep_suffix (f : Flags) (step : ClassItem ⊕ BracketState) (cs : List Char) :
    ∀ x rest, afterStep f step cs = some (x, rest) → rest <:+ cs := by
  intro x rest h
  cases step with
  | inl item =>
      obtain ⟨-, rfl⟩ : item = x ∧ cs = rest := by simpa [afterStep] using h
      exact List.suffix_rfl
  | inr st => exact readBracketFrom?_suffix f st cs x rest h

theorem stops_readBracketFrom? (f : Flags) (st : BracketState) (cs : List Char) :
    Reader.Stops Reader.Uncut (readBracketFrom? f st) cs := by
  refine (((regular_bracketStep f st).stops cs).andThen (k := afterStep f) ?_ (afterStep_suffix f) ?_).congr
    (readBracketFrom?_eq f st cs) fun after => readBracketFrom?_eq f st _
  · intro step rest after h
    have hlt : rest.length < cs.length := by
      simpa using consumes_bracketStep f st _ step _ h
    match step with
    | .inl item => exact .of_eq_some item rest rfl fun _ => rfl
    | .inr st' => exact stops_readBracketFrom? f st' rest
  · rintro step rest ⟨⟨st', rfl⟩, rfl⟩ y left h
    simp [afterStep] at h
termination_by cs.length

theorem regular_readBracketFrom? (f : Flags) (st : BracketState) :
    Reader.Regular Reader.Uncut (readBracketFrom? f st) :=
  ⟨readBracketFrom?_suffix f st, stops_readBracketFrom? f st⟩

theorem regular_readBracket? (f : Flags) : Reader.Regular Reader.Uncut (readBracket? f) := by
  refine ((regular_openBracket? f ⟨[], []⟩).andThen (fun st => regular_readBracketFrom? f st) ?_).congr
    fun _ => rfl
  rintro st rest rfl y left h
  simp at h

end NameLint.Regex
