import NameLint.Proofs.Regex.Bracket
import NameLint.Regex.Parse

/-!
# Pieces in front of a closing parenthesis

Groups, flags, repetitions and all other pieces of an expression are read alike with and without a closing
parenthesis behind the text, or go past it.
-/

namespace NameLint.Regex

open NameLint.Unicode

/-! ## Flags and names of groups -/

namespace Flags

/-- Reading flags, where `seen` have been read, as a reader. -/
def switches (f : Flags) (seen : List Char) (on afterMinus : Bool) : Reader (Flags × Bool × Char) :=
  fun cs => (read?.go f seen on afterMinus cs).map fun (flags, any, c, rest) => ((flags, any, c), rest)

/-- Whether flags end at a character: the flags, whether there are any, and the character. -/
def ended? (f : Flags) (seen : List Char) (afterMinus : Bool) (c : Char) : Option (Flags × Bool × Char) :=
  if afterMinus then none else some (f, !seen.isEmpty, c)

/-- The reader that goes on behind a flag, if the flag may stand there. -/
def nextSwitch (f : Flags) (seen : List Char) (on : Bool) (c : Char) : Reader (Flags × Bool × Char) :=
  if seen.contains c then fun _ => none
  else if c = '-' then f.switches (c :: seen) false true
  else fun rest => (f.set? c on).bind fun f => f.switches (c :: seen) on false rest

theorem switches_cons (f : Flags) (seen : List Char) (on afterMinus : Bool) (c : Char) (rest : List Char) :
    f.switches seen on afterMinus (c :: rest) =
      if c = ':' ∨ c = ')' then (f.ended? seen afterMinus c).map (·, rest)
      else f.nextSwitch seen on c rest := by
  unfold switches read?.go
  split
  next => unfold ended?; split <;> rfl
  next =>
    unfold nextSwitch
    split
    next => rfl
    next =>
      split
      next => rfl
      next => cases f.set? c on <;> rfl

theorem switches_suffix (f : Flags) (seen : List Char) (on afterMinus : Bool) (cs : List Char) :
    ∀ x rest, f.switches seen on afterMinus cs = some (x, rest) → rest <:+ cs := by
  induction cs generalizing f seen on afterMinus with
  | nil => simp [switches, read?.go]
  | cons c cs ih =>
      intro x rest h
      refine List.IsSuffix.trans ?_ (List.suffix_cons c cs)
      rw [switches_cons] at h
      split at h
      next =>
        obtain rfl : cs = rest := Reader.eq_of_map_eq_some h
        exact List.suffix_rfl
      next =>
        unfold nextSwitch at h
        split at h
        next => simp at h
        next =>
          split at h
          next => exact ih _ _ _ _ x rest h
          next =>
            obtain ⟨f', -, h⟩ := Option.bind_eq_some_iff.mp h
            exact ih _ _ _ _ x rest h

theorem stops_switches (f : Flags) (seen : List Char) (on afterMinus : Bool) (cs : List Char) :
    Reader.Stops Reader.Uncut (f.switches seen on afterMinus) cs := by
  induction cs generalizing f seen on afterMinus with
  | nil =>
      refine .nil rfl fun after x left h => ?_
      rw [switches_cons, if_pos (.inr rfl)] at h
      obtain rfl : after = left := Reader.eq_of_map_eq_some h
      exact List.suffix_rfl
  | cons c cs ih =>
      have hnext : Reader.Stops Reader.Uncut (f.nextSwitch seen on c) cs := by
        unfold nextSwitch
        split
        next => exact .of_eq_none (fun _ => rfl) rfl
        next =>
          split
          next => exact ih ..
          next =>
            cases f.set? c on with
            | none => exact .of_eq_none (fun _ => rfl) rfl
            | some f' => exact ih ..
      by_cases hend : c = ':' ∨ c = ')'
      · exact .of_eq_map (f.ended? seen afterMinus c) id cs (by rw [switches_cons, if_pos hend]; rfl)
          fun after => by rw [List.cons_append, switches_cons, if_pos hend]; rfl
      · exact hnext.congr (by rw [switches_cons, if_neg hend])
          fun after => by rw [List.cons_append, switches_cons, if_neg hend]

theorem regular_switches (f : Flags) (seen : List Char) (on afterMinus : Bool) :
    Reader.Regular Reader.Uncut (f.switches seen on afterMinus) :=
  ⟨f.switches_suffix seen on afterMinus, f.stops_switches seen on afterMinus⟩

end Flags

/-- Reading flags, as a reader. -/
def readFlags (f : Flags) : Reader (Flags × Bool × Char) := f.switches [] true false

/-- The name of a group that is made of some characters, if they make up one. -/
def groupName? : List Char → Option (List Char)
  | [] => none
  | c :: name =>
    if isGroupNameChar true c && name.all (isGroupNameChar false) then some (c :: name) else none

theorem readGroupName?_eq (cs : List Char) :
    readGroupName? cs =
      match cs.dropWhile (· != '>') with
      | [] => none
      | _ :: rest => (groupName? (cs.takeWhile (· != '>'))).map (·, rest) := by
  unfold readGroupName? groupName?
  cases cs.dropWhile (· != '>') with
  | nil => cases cs.takeWhile (· != '>') <;> rfl
  | cons d rest =>
      cases cs.takeWhile (· != '>') with
      | nil => rfl
      | cons c name => simp only; split <;> rfl

theorem regular_readGroupName? : Reader.Regular Reader.Uncut readGroupName? where
  suffix cs x rest h := by
    rw [readGroupName?_eq] at h
    split at h
    next => simp at h
    next d left hcs =>
      obtain rfl : left = rest := Reader.eq_of_map_eq_some h
      have hdrop : d :: left <:+ cs := hcs ▸ List.dropWhile_suffix _
      exact (List.suffix_cons d left).trans hdrop
  stops cs := by
    cases hcs : cs.dropWhile (· != '>') with
    | nil =>
        refine .of_beyond (by rw [readGroupName?_eq, hcs]) fun after x left h => ?_
        rw [readGroupName?_eq] at h
        split at h
        next => simp at h
        next d rest hrest =>
          obtain rfl : rest = left := Reader.eq_of_map_eq_some h
          have hafter : after.dropWhile (· != '>') = d :: rest := by
            simpa [List.dropWhile_append, hcs] using hrest
          have hdrop : d :: rest <:+ after := hafter ▸ List.dropWhile_suffix _
          exact (List.suffix_cons d rest).trans hdrop
    | cons d rest =>
        refine .of_eq_map (groupName? (cs.takeWhile (· != '>'))) id rest ?_ fun after => ?_
        · rw [readGroupName?_eq, hcs]; rfl
        · rw [readGroupName?_eq, dropWhile_append_of_eq_cons hcs, takeWhile_append_of_eq_cons hcs]; rfl

theorem regular_openNamedGroup? (st : ParseState) : Reader.Regular Reader.Uncut (openNamedGroup? st) := by
  refine (regular_readGroupName?.filterMap_of_uncut (k := fun name =>
    if st.names.contains name then none
    else some { st.openGroup st.flags with names := name :: st.names })).congr fun cs => ?_
  simp only [openNamedGroup?, Reader.filterMap]
  cases readGroupName? cs with
  | none => rfl
  | some read => simp only [Option.bind_eq_bind, Option.bind_some]; split <;> rfl

/-! ## Groups -/

/-- What flags lead to behind an opening parenthesis and a question mark: a group, or a change of flags. -/
def flagsGroup (st : ParseState) : Reader ParseState :=
  (readFlags st.flags).filterMap fun (flags, anyFlag, c) =>
    if c = ':' then some (st.openGroup flags)
    else if anyFlag then some { st with flags := flags, terms := ⟨.empty, 0, false⟩ :: st.terms }
    else none

/-- What a group begins with behind an opening parenthesis and a question mark. -/
def markedGroup (st : ParseState) : Reader ParseState :=
  .ifHead '=' (fun _ => none) <| .ifHead '!' (fun _ => none) <|
    .ifHead '<' (.ifHead '=' (fun _ => none) <| .ifHead '!' (fun _ => none) <| openNamedGroup? st) <|
      .ifBoth 'P' '<' (openNamedGroup? st) (flagsGroup st)

theorem readGroup?_eq (st : ParseState) (cs : List Char) :
    readGroup? st cs =
      Reader.ifHead '?' (markedGroup st) (fun cs => some (st.openGroup st.flags, cs)) (st.flags.skip cs) := by
  unfold readGroup?
  split
  next h => simp [h, markedGroup]
  next h => simp [h, markedGroup, Reader.ifHead]
  next h => simp [h, markedGroup, Reader.ifHead]
  next h => simp [h, markedGroup, Reader.ifHead]
  next rest h => simp [h, markedGroup, Reader.ifHead]
  next rest hequal hnot h =>
    have hmarked : markedGroup st ('<' :: rest) =
        Reader.ifHead '=' (fun _ => none) (.ifHead '!' (fun _ => none) (openNamedGroup? st)) rest := by
      simp [markedGroup, Reader.ifHead]
    rw [h, Reader.ifHead_cons_self, hmarked, Reader.ifHead_of_ne hequal, Reader.ifHead_of_ne hnot]
  next rest hequal hnot _ _ hname hangle h =>
    have hmarked : markedGroup st rest = flagsGroup st rest := by
      rw [markedGroup, Reader.ifHead_of_ne hequal, Reader.ifHead_of_ne hnot, Reader.ifHead_of_ne hangle,
        Reader.ifBoth_of_ne hname]
    rw [h, Reader.ifHead_cons_self, hmarked]
    have hread : st.flags.read? rest = Flags.read?.go st.flags [] true false rest := rfl
    simp only [flagsGroup, Reader.filterMap, readFlags, Flags.switches, ← hread]
    cases st.flags.read? rest with
    | none => rfl
    | some read =>
        obtain ⟨flags, anyFlag, c, left⟩ := read
        by_cases hc : c = ':'
        · subst hc
          rfl
        · cases anyFlag <;> simp [hc]
  next => rw [Reader.ifHead_of_ne (by assumption)]

theorem regular_readGroup? (st : ParseState) : Reader.Regular Reader.Uncut (readGroup? st) := by
  have hflags : Reader.Regular Reader.Uncut (flagsGroup st) :=
    (Flags.regular_switches ..).filterMap_of_uncut
  have hmarked : Reader.Regular Reader.Uncut (markedGroup st) :=
    .ifHead (by decide) .none <| .ifHead (by decide) .none <|
      .ifHead (by decide) (.ifHead (by decide) .none <| .ifHead (by decide) .none (regular_openNamedGroup? st)) <|
        .ifBoth (by decide) (by decide) (regular_openNamedGroup? st) hflags
  exact (st.flags.regular_afterSkip (.ifHead (by decide) hmarked (.some _))).congr (readGroup?_eq st)

/-! ## Repetitions -/

/-- The number that digits denote, if there are any and it fits into 32 bits. -/
def countOf? (digits : List Char) : Option Nat :=
  let n := digits.foldl (fun n c => 10 * n + (c.toNat - '0'.toNat)) 0
  if digits.isEmpty ∨ UInt32.size ≤ n then none else some n

/-- Gives a value, if there is one, and passes over blanks and comments. -/
theorem regular_skipAfter {α : Type} (f : Flags) (x? : Option α) :
    Reader.Regular Reader.Uncut fun cs => x?.map (·, f.skip (cs.dropWhile isBlank)) :=
  regular_afterBlanks (f.regular_afterSkip (.option x?))

theorem readCount?_eq (f : Flags) (cs : List Char) :
    readCount? f cs =
      (f.run Char.isDigit).andThen (fun digits rest =>
        (countOf? digits).map (·, f.skip (rest.dropWhile isBlank))) (cs.dropWhile isBlank) := by
  simp only [readCount?, Reader.andThen, Flags.run, Option.bind_some, countOf?]
  split <;> rfl

theorem regular_readCount? (f : Flags) : Reader.Regular Reader.Uncut (readCount? f) :=
  (regular_afterBlanks <| (f.regular_run (by decide)).andThen_of_uncut
    fun digits => regular_skipAfter f (countOf? digits)).congr (readCount?_eq f)

/-- The rest of the bounds of a repetition behind the least number. -/
def readUpperBound (f : Flags) (min : Nat) : Reader (Nat × Option Nat) :=
  .ifHead '\x7d' (fun rest => some ((min, some min), rest)) <|
    .ifHead ',' (fun rest =>
      Reader.ifHead '\x7d' (fun rest => some ((min, none), rest))
        (Reader.andThen (readCount? f) fun max =>
          .ifHead '\x7d' (fun rest => (if min ≤ max then some (min, some max) else none).map (·, rest))
            fun _ => none)
        (f.skip rest))
      fun _ => none

theorem readBounds?_eq (f : Flags) (cs : List Char) :
    readBounds? f cs = Reader.andThen (readCount? f) (readUpperBound f) (f.skip cs) := by
  simp only [readBounds?, Reader.andThen]
  refine congrArg (Option.bind _) (funext fun read => ?_)
  obtain ⟨min, rest⟩ := read
  simp only [readUpperBound]
  split
  next => rw [Reader.ifHead_cons_self]; rfl
  next rest =>
    rw [Reader.ifHead_of_ne (by simp), Reader.ifHead_cons_self]
    split
    next h => rw [h, Reader.ifHead_cons_self]; rfl
    next h =>
      rw [Reader.ifHead_of_ne h]
      simp only [Reader.andThen]
      refine congrArg (Option.bind _) (funext fun read => ?_)
      obtain ⟨max, rest⟩ := read
      dsimp only
      split
      next => rw [Reader.ifHead_cons_self]; split <;> rfl
      next h => rw [Reader.ifHead_of_ne h]
  next hbrace hcomma => rw [Reader.ifHead_of_ne hbrace, Reader.ifHead_of_ne hcomma]

theorem regular_readBounds? (f : Flags) : Reader.Regular Reader.Uncut (readBounds? f) := by
  have hmax (min : Nat) : Reader.Regular Reader.Uncut (Reader.andThen (readCount? f) fun max =>
      .ifHead '\x7d' (fun rest => (if min ≤ max then some (min, some max) else none).map (·, rest))
        fun _ => none) :=
    (regular_readCount? f).andThen_of_uncut fun max => .ifHead (by decide) (.option _) .none
  have hupper (min : Nat) : Reader.Regular Reader.Uncut (readUpperBound f min) :=
    .ifHead (by decide) (.some _) <|
      .ifHead (by decide) (f.regular_afterSkip <| .ifHead (by decide) (.some _) (hmax min)) .none
  exact (f.regular_afterSkip ((regular_readCount? f).andThen_of_uncut hupper)).congr (readBounds?_eq f)

/-- A value with what is left behind the mark of a repetition that prefers few. -/
theorem regular_dropLazyMark {α : Type} (x? : Option α) :
    Reader.Regular Reader.Uncut fun cs => x?.map (·, dropLazyMark cs) := by
  refine (Reader.Regular.ifHead (c := '?') (by decide) (.option x?) (.option x?)).congr fun cs => ?_
  match cs with
  | [] => rfl
  | c :: rest => by_cases hc : c = '?' <;> simp [Reader.ifHead, dropLazyMark, hc]

/-! ## Pieces -/

/-- What may be cut short of a piece: a word boundary in front of unfilled braces. -/
def CutPiece (st : ParseState) (rest : List Char) : Prop :=
  Unfilled st.flags rest

/-- The bounds of a repetition behind the opening brace, put on the last term. -/
def boundedRepetition (st : ParseState) : Reader ParseState :=
  if st.terms.isEmpty then fun _ => none
  else Reader.andThen (readBounds? st.flags) fun bounds rest =>
    (st.repeatLast? bounds.1 bounds.2).map (·, dropLazyMark (st.flags.skip rest))

theorem regular_boundedRepetition (st : ParseState) : Reader.Regular Reader.Uncut (boundedRepetition st) := by
  unfold boundedRepetition
  split
  next => exact .none
  next =>
    exact (regular_readBounds? st.flags).andThen_of_uncut fun bounds =>
      st.flags.regular_afterSkip (regular_dropLazyMark (st.repeatLast? bounds.1 bounds.2))

/-- A piece that begins with a character, as a reader. -/
def pieceReader (st : ParseState) (c : Char) : Reader ParseState :=
  match c with
  | '(' => readGroup? st
  | '[' => Reader.map (readBracket? st.flags) fun item => st.add (.chars item.set) item.depth
  | '?' => fun rest => (st.repeatLast? 0 (some 1)).map (·, dropLazyMark rest)
  | '*' => fun rest => (st.repeatLast? 0 none).map (·, dropLazyMark rest)
  | '+' => fun rest => (st.repeatLast? 1 none).map (·, dropLazyMark rest)
  | '\x7b' => boundedRepetition st
  | '\\' => Reader.filterMap (readEscape? st.flags) (addAtom? st)
  | c => fun rest => ((readPiece? st c []).map (·.1)).map (·, rest)

theorem readPiece?_eq (st : ParseState) (c : Char) (rest : List Char) :
    readPiece? st c rest = pieceReader st c rest := by
  unfold pieceReader
  split
  · rfl
  · rfl
  · rfl
  · rfl
  · rfl
  · simp only [readPiece?, boundedRepetition]
    split <;> rfl
  · rfl
  · unfold readPiece?
    split <;> simp_all [Function.comp_def]

theorem addAtom?_flags {st st' : ParseState} {atom : Atom} (h : addAtom? st atom = some st') :
    st'.flags = st.flags := by
  cases atom <;> simp [addAtom?] at h <;> subst h <;> rfl

theorem regular_readPiece? (st : ParseState) (c : Char) : Reader.Regular CutPiece (readPiece? st c) := by
  suffices h : Reader.Regular CutPiece (pieceReader st c) from h.congr (readPiece?_eq st c)
  unfold pieceReader
  split
  · exact (regular_readGroup? st).of_uncut
  · exact (regular_readBracket? st.flags).map fun _ _ => False.elim
  · exact (regular_dropLazyMark _).of_uncut
  · exact (regular_dropLazyMark _).of_uncut
  · exact (regular_dropLazyMark _).of_uncut
  · exact (regular_boundedRepetition st).of_uncut
  · refine (regular_readEscape? st.flags).filterMap fun atom rest h st' hst' => ?_
    rw [CutPiece, addAtom?_flags hst']
    exact h.2
  · exact .option _

end NameLint.Regex
