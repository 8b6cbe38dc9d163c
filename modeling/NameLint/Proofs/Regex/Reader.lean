import NameLint.Regex.Flags

/-!
# Readers in front of a closing parenthesis

A closing parenthesis behind a text ends what a reader takes from the text, or the reader goes past it: since
it was still in a comment, in a class or in an escape. `Stops` says which of these happens, it goes through
readers one after the other, and every reader of expressions obeys it.
-/

namespace NameLint.Regex

open NameLint.Unicode

/-- A reader takes a value from the front of a text and leaves a rest. -/
abbrev Reader (α : Type) := List Char → Option (α × List Char)

namespace Reader

variable {α β : Type} {cs rest : List Char}

/-- A reader stays in front of a closing parenthesis: it takes the same whether the text ends there or not. -/
def Stays (g : Reader α) (cs : List Char) : Prop :=
  ∃ x rest, g cs = some (x, rest) ∧
    ∀ after, g (cs ++ ')' :: after) = some (x, rest ++ ')' :: after)

/-- A reader goes past a closing parenthesis. What it takes from the text alone, if anything, ends in a comment
that takes in what follows on the same line. With the parenthesis behind the text, what it leaves is
behind the parenthesis, but for values cut short that the text alone does not give. -/
structure Passes (cut : α → List Char → Prop) (g : Reader α) (cs : List Char) : Prop where
  swallows : ∀ x rest, g cs = some (x, rest) →
    rest = [] ∧ ∀ after, '\n' ∉ after → g (cs ++ ')' :: after) = some (x, [])
  beyond : ∀ after x left, g (cs ++ ')' :: after) = some (x, left) →
    left <:+ after ∨ g cs = none ∧ ∃ rest, left = rest ++ ')' :: after ∧ cut x rest

/-- What a reader does at the closing parenthesis behind a text: it stays in front of it or goes past. -/
def Stops (cut : α → List Char → Prop) (g : Reader α) (cs : List Char) : Prop :=
  g.Stays cs ∨ g.Passes cut cs

/-- A reader that leaves an end of what it reads, and stops as said at closing parentheses. The values that
may be cut short by one are those of `cut`. -/
structure Regular (cut : α → List Char → Prop) (g : Reader α) : Prop where
  suffix : ∀ cs x rest, g cs = some (x, rest) → rest <:+ cs
  stops : ∀ cs, g.Stops cut cs

/-- No value is cut short. -/
def Uncut (_ : α) (_ : List Char) : Prop := False

/-- Only a value behind which nothing is left is cut short. -/
def Spent (_ : α) (rest : List Char) : Prop := rest = []

/-- Reads with `g`, then with what `k` gives for the value. -/
def andThen (g : Reader α) (k : α → Reader β) : Reader β :=
  fun cs => (g cs).bind fun (x, rest) => k x rest

/-- Reads with `g` and turns the value into another one, or refuses it. -/
def filterMap (g : Reader α) (k : α → Option β) : Reader β :=
  fun cs => (g cs).bind fun (x, rest) => (k x).map (·, rest)

/-- Reads with `g` and turns the value into another one. -/
def map (g : Reader α) (k : α → β) : Reader β :=
  fun cs => (g cs).map fun (x, rest) => (k x, rest)

/-- Reads with what `k` gives for the first character. -/
def onHead (k : Char → Reader α) : Reader α
  | [] => none
  | c :: rest => k c rest

/-- Reads with `g` behind the character `c`, and with `h` where that is not the first one. -/
def ifHead (c : Char) (g h : Reader α) : Reader α
  | [] => h []
  | d :: rest => if d = c then g rest else h (d :: rest)

/-- Gives a value unless nothing is left. -/
def unlessSpent (x : α) : Reader α :=
  fun cs => if cs.isEmpty then none else some (x, cs)

/-- Reads with `g` behind the characters `c` and `d`, and with `h` where these do not come first. -/
def ifBoth (c d : Char) (g h : Reader α) : Reader α
  | a :: b :: rest => if a = c ∧ b = d then g rest else h (a :: b :: rest)
  | cs => h cs

/-- A reader that takes at least one character. -/
def Consumes (g : Reader α) : Prop :=
  ∀ cs x rest, g cs = some (x, rest) → rest.length < cs.length

variable {cut : α → List Char → Prop} {cut' : β → List Char → Prop} {g g' : Reader α} {k : α → Reader β}

@[simp] theorem ifHead_cons_self (c : Char) (g h : Reader α) (rest : List Char) :
    ifHead c g h (c :: rest) = g rest :=
  if_pos rfl

theorem ifHead_of_ne {c : Char} {g h : Reader α} (hcs : ∀ rest, cs = c :: rest → False) :
    ifHead c g h cs = h cs := by
  cases cs with
  | nil => rfl
  | cons d rest => exact if_neg fun hd => hcs rest (by rw [hd])

@[simp] theorem ifBoth_cons_self (c d : Char) (g h : Reader α) (rest : List Char) :
    ifBoth c d g h (c :: d :: rest) = g rest :=
  if_pos ⟨rfl, rfl⟩

theorem ifBoth_of_ne {c d : Char} {g h : Reader α} (hcs : ∀ rest, cs = c :: d :: rest → False) :
    ifBoth c d g h cs = h cs := by
  match cs with
  | [] | [_] => rfl
  | a :: b :: rest => exact if_neg fun hab => hcs rest (by rw [hab.1, hab.2])

theorem eq_of_map_eq_some {x? : Option α} {k : α → β} {y : β}
    (h : (x?.map fun x => (k x, cs)) = some (y, rest)) : cs = rest := by
  obtain ⟨x, -, heq⟩ := Option.map_eq_some_iff.mp h
  exact congrArg Prod.snd heq

/-! ## Stopping at one text -/

/-- A reader stops at a text as another one does at a text that it reads the same. -/
theorem Stops.congr {cs' : List Char} (h : g'.Stops cut cs') (hcs : g cs = g' cs')
    (hafter : ∀ after, g (cs ++ ')' :: after) = g' (cs' ++ ')' :: after)) : g.Stops cut cs := by
  rcases h with ⟨x, rest, hx, hstays⟩ | h
  · exact .inl ⟨x, rest, hcs.trans hx, fun after => (hafter after).trans (hstays after)⟩
  · refine .inr ⟨fun x rest hx => ?_, fun after x left hx => ?_⟩
    · obtain ⟨hrest, hswallows⟩ := h.swallows x rest (hcs ▸ hx)
      exact ⟨hrest, fun after hno => (hafter after).trans (hswallows after hno)⟩
    · rw [hcs]
      exact h.beyond after x left (hafter after ▸ hx)

theorem Stops.of_eq_some (x : α) (rest : List Char) (h : g cs = some (x, rest))
    (hafter : ∀ after, g (cs ++ ')' :: after) = some (x, rest ++ ')' :: after)) : g.Stops cut cs :=
  .inl ⟨x, rest, h, hafter⟩

theorem Stops.of_eq_none (h : ∀ after, g (cs ++ ')' :: after) = none) (hcs : g cs = none) :
    g.Stops cut cs :=
  .inr ⟨fun x rest hx => by simp [hcs] at hx, fun after x left hx => by simp [h] at hx⟩

theorem Stops.of_eq_map (x? : Option β) (k : β → α) (rest : List Char)
    (h : g cs = x?.map fun x => (k x, rest))
    (hafter : ∀ after, g (cs ++ ')' :: after) = x?.map fun x => (k x, rest ++ ')' :: after)) :
    g.Stops cut cs := by
  cases x? with
  | none => exact .of_eq_none hafter h
  | some x => exact .of_eq_some (k x) rest h hafter

/-- A reader that takes nothing from a text goes past the parenthesis if it takes that too. -/
theorem Stops.of_beyond (hcs : g cs = none)
    (h : ∀ after x left, g (cs ++ ')' :: after) = some (x, left) → left <:+ after) : g.Stops cut cs :=
  .inr ⟨fun x rest hx => by simp [hcs] at hx, fun after x left hx => .inl (h after x left hx)⟩

/-- Where the parenthesis comes right away, a reader that does not leave it goes past. -/
theorem Stops.nil (hcs : g [] = none)
    (h : ∀ after x left, g (')' :: after) = some (x, left) → left <:+ after) : g.Stops cut [] :=
  .of_beyond hcs h

theorem Stops.mono {cut' : α → List Char → Prop} (h : g.Stops cut cs)
    (hcut : ∀ x rest, cut x rest → cut' x rest) : g.Stops cut' cs := by
  rcases h with h | h
  · exact .inl h
  · refine .inr ⟨h.swallows, fun after x left hx => ?_⟩
    rcases h.beyond after x left hx with hleft | ⟨hcs, rest, hleft, hx⟩
    · exact .inl hleft
    · exact .inr ⟨hcs, rest, hleft, hcut x rest hx⟩

/-- Stopping goes through readers one after the other, if the second takes nothing from a text that the
first has cut short. -/
theorem Stops.andThen (hg : g.Stops cut cs)
    (hk : ∀ x rest after, g (cs ++ ')' :: after) = some (x, rest ++ ')' :: after) →
      (k x).Stops cut' rest)
    (hsuffix : ∀ x cs y rest, k x cs = some (y, rest) → rest <:+ cs)
    (hcut : ∀ x rest, cut x rest → ∀ y left, k x rest = some (y, left) → cut' y left) :
    (g.andThen k).Stops cut' cs := by
  rcases hg with ⟨x, rest, hx, hstays⟩ | hg
  · refine (hk x rest [] (hstays [])).congr ?_ fun after => ?_
    · simp [Reader.andThen, hx]
    · simp [Reader.andThen, hstays after]
  · refine .inr ⟨fun y left hy => ?_, fun after y left hy => ?_⟩
    · obtain ⟨⟨x, rest⟩, hx, hy⟩ := Option.bind_eq_some_iff.mp hy
      obtain ⟨rfl, hswallows⟩ := hg.swallows x rest hx
      obtain rfl : left = [] := List.suffix_nil.mp (hsuffix x [] y left hy)
      exact ⟨rfl, fun after hno => by simp [Reader.andThen, hswallows after hno, hy]⟩
    · obtain ⟨⟨x, rest⟩, hx, hy⟩ := Option.bind_eq_some_iff.mp hy
      rcases hg.beyond after x rest hx with hrest | ⟨hcs, rest, rfl, hx'⟩
      · exact .inl ((hsuffix x rest y left hy).trans hrest)
      · have hnone : (g.andThen k) cs = none := by simp [Reader.andThen, hcs]
        rcases hk x rest after hx with ⟨z, tail, hz, hstays⟩ | hpasses
        · obtain ⟨rfl, rfl⟩ : z = y ∧ tail ++ ')' :: after = left := by
            simpa using (hstays after).symm.trans hy
          exact .inr ⟨hnone, tail, rfl, hcut x rest hx' z tail hz⟩
        · rcases hpasses.beyond after y left hy with hleft | ⟨-, hcut'⟩
          · exact .inl hleft
          · exact .inr ⟨hnone, hcut'⟩

theorem Stops.filterMap {k : α → Option β} (hg : g.Stops cut cs)
    (hcut : ∀ x rest, cut x rest → ∀ y, k x = some y → cut' y rest) :
    (g.filterMap k).Stops cut' cs := by
  refine (hg.andThen (k := fun x cs => (k x).map (·, cs)) (fun x rest _ _ => ?_) ?_ ?_).congr rfl
    fun _ => rfl
  · cases hx : k x with
    | none => exact .of_eq_none (fun _ => rfl) rfl
    | some y => exact .of_eq_some y rest rfl fun _ => rfl
  · intro x cs y rest hy
    obtain rfl : cs = rest := eq_of_map_eq_some hy
    exact List.suffix_rfl
  · intro x rest hx y left hy
    obtain ⟨z, hz, heq⟩ := Option.map_eq_some_iff.mp hy
    obtain ⟨rfl, rfl⟩ : z = y ∧ rest = left := by simpa using heq
    exact hcut x rest hx z hz

theorem map_eq_filterMap (g : Reader α) (k : α → β) : g.map k = g.filterMap fun x => some (k x) := by
  funext cs
  cases h : g cs <;> simp [Reader.map, Reader.filterMap, h]

theorem Stops.map {k : α → β} (hg : g.Stops cut cs) (hcut : ∀ x rest, cut x rest → cut' (k x) rest) :
    (g.map k).Stops cut' cs := by
  rw [map_eq_filterMap]
  exact hg.filterMap fun x rest hx y hy => Option.some.inj hy ▸ hcut x rest hx

/-! ## Readers built from readers -/

theorem Regular.congr (h : Regular cut g') (heq : ∀ cs, g cs = g' cs) : Regular cut g where
  suffix cs x rest hx := h.suffix cs x rest (heq cs ▸ hx)
  stops cs := (h.stops cs).congr (heq cs) fun _ => heq _

theorem Regular.mono {cut' : α → List Char → Prop} (h : Regular cut g)
    (hcut : ∀ x rest, cut x rest → cut' x rest) : Regular cut' g :=
  ⟨h.suffix, fun cs => (h.stops cs).mono hcut⟩

theorem Regular.of_uncut (h : Regular Uncut g) : Regular cut g :=
  h.mono fun _ _ => False.elim

theorem Regular.some (x : α) : Regular cut fun cs => .some (x, cs) where
  suffix cs y rest h := by
    obtain ⟨-, rfl⟩ : x = y ∧ cs = rest := by simpa using h
    exact List.suffix_rfl
  stops cs := .of_eq_some _ _ rfl fun _ => rfl

theorem Regular.none : Regular (α := α) cut fun _ => .none where
  suffix _ _ _ h := by simp at h
  stops cs := .of_eq_none (fun _ => rfl) rfl

/-- A value that is given or not, whatever is read. -/
theorem Regular.option (x? : Option α) : Regular cut fun cs => x?.map (·, cs) := by
  cases x? with
  | none => exact .none
  | some x => exact .some x

theorem Regular.andThen (hg : Regular cut g) (hk : ∀ x, Regular cut' (k x))
    (hcut : ∀ x rest, cut x rest → ∀ y left, k x rest = .some (y, left) → cut' y left) :
    Regular cut' (g.andThen k) where
  suffix cs y left h := by
    obtain ⟨⟨x, rest⟩, hx, hy⟩ := Option.bind_eq_some_iff.mp h
    exact ((hk x).suffix rest y left hy).trans (hg.suffix cs x rest hx)
  stops cs := (hg.stops cs).andThen (fun x rest _ _ => (hk x).stops rest)
    (fun x => (hk x).suffix) hcut

/-- After a reader that cuts nothing short any other may follow. -/
theorem Regular.andThen_of_uncut (hg : Regular Uncut g) (hk : ∀ x, Regular cut' (k x)) :
    Regular cut' (g.andThen k) :=
  hg.andThen hk fun _ _ => False.elim

theorem Regular.filterMap {k : α → Option β} (hg : Regular cut g)
    (hcut : ∀ x rest, cut x rest → ∀ y, k x = .some y → cut' y rest) :
    Regular cut' (g.filterMap k) where
  suffix cs y left h := by
    obtain ⟨⟨x, rest⟩, hx, hy⟩ := Option.bind_eq_some_iff.mp h
    obtain rfl : rest = left := eq_of_map_eq_some hy
    exact hg.suffix cs x rest hx
  stops cs := (hg.stops cs).filterMap hcut

theorem Regular.filterMap_of_uncut {k : α → Option β} (hg : Regular Uncut g) :
    Regular cut' (g.filterMap k) :=
  hg.filterMap fun _ _ => False.elim

theorem Regular.map {k : α → β} (hg : Regular cut g) (hcut : ∀ x rest, cut x rest → cut' (k x) rest) :
    Regular cut' (g.map k) := by
  rw [map_eq_filterMap]
  exact hg.filterMap fun x rest hx y hy => Option.some.inj hy ▸ hcut x rest hx

theorem Regular.onHead {k : Char → Reader α} (hk : ∀ c, Regular cut (k c)) : Regular cut (onHead k) where
  suffix cs x rest h := by
    cases cs with
    | nil => simp [Reader.onHead] at h
    | cons c cs => exact ((hk c).suffix cs x rest h).trans (List.suffix_cons c cs)
  stops cs := by
    cases cs with
    | nil => exact .nil rfl fun after x left h => (hk ')').suffix after x left h
    | cons c cs => exact ((hk c).stops cs).congr rfl fun _ => rfl

theorem Regular.ifHead {c : Char} {h : Reader α} (hc : c ≠ ')') (hg : Regular cut g)
    (hh : Regular cut h) : Regular cut (ifHead c g h) where
  suffix cs x rest hx := by
    cases cs with
    | nil => exact hh.suffix [] x rest hx
    | cons d cs =>
        simp only [Reader.ifHead] at hx
        split at hx
        next => exact (hg.suffix cs x rest hx).trans (List.suffix_cons d cs)
        next => exact hh.suffix (d :: cs) x rest hx
  stops cs := by
    cases cs with
    | nil => exact (hh.stops []).congr rfl fun after => if_neg hc.symm
    | cons d cs =>
        by_cases hd : d = c
        · exact (hg.stops cs).congr (if_pos hd) fun after => if_pos hd
        · exact (hh.stops (d :: cs)).congr (if_neg hd) fun after => if_neg hd

theorem Regular.unlessSpent (x : α) : Regular Spent (unlessSpent x) where
  suffix cs y rest h := by
    obtain ⟨-, -, rfl⟩ : cs ≠ [] ∧ x = y ∧ cs = rest := by simpa [Reader.unlessSpent] using h
    exact List.suffix_rfl
  stops cs := by
    cases cs with
    | nil =>
        refine .inr ⟨fun y rest h => by simp [Reader.unlessSpent] at h, fun after y left h => ?_⟩
        obtain ⟨-, rfl⟩ : x = y ∧ ')' :: after = left := by simpa [Reader.unlessSpent] using h
        exact .inr ⟨rfl, [], rfl, rfl⟩
    | cons c cs => exact .of_eq_some _ _ rfl fun _ => rfl

theorem Regular.ifBoth {c d : Char} {h : Reader α} (hc : c ≠ ')') (hd : d ≠ ')') (hg : Regular cut g)
    (hh : Regular cut h) : Regular cut (ifBoth c d g h) where
  suffix cs y rest hy := by
    match cs with
    | [] => exact hh.suffix [] y rest hy
    | [a] => exact hh.suffix [a] y rest hy
    | a :: b :: cs =>
        simp only [Reader.ifBoth] at hy
        split at hy
        next => exact ((hg.suffix cs y rest hy).trans (List.suffix_cons b cs)).trans (List.suffix_cons a _)
        next => exact hh.suffix _ y rest hy
  stops cs := by
    match cs with
    | [] => exact (hh.stops []).congr rfl fun after => by cases after <;> simp [Reader.ifBoth, hc.symm]
    | [a] => exact (hh.stops [a]).congr rfl fun after => by simp [Reader.ifBoth, hd.symm]
    | a :: b :: cs =>
        by_cases hab : a = c ∧ b = d
        · exact (hg.stops cs).congr (if_pos hab) fun after => if_pos hab
        · exact (hh.stops (a :: b :: cs)).congr (if_neg hab) fun after => if_neg hab

/-! ## Readers that consume -/

theorem Regular.length_le (hg : Regular cut g) {x : α} (h : g cs = .some (x, rest)) :
    rest.length ≤ cs.length :=
  (hg.suffix cs x rest h).length_le

theorem Consumes.of_suffix (h : ∀ c cs x rest, g (c :: cs) = some (x, rest) → rest <:+ cs)
    (hnil : g [] = none) : Consumes g := by
  intro cs x rest hx
  cases cs with
  | nil => simp [hnil] at hx
  | cons c cs => exact Nat.lt_succ_of_le (h c cs x rest hx).length_le

theorem Consumes.andThen (hg : Consumes g) (hk : ∀ x, Regular cut' (k x)) : Consumes (g.andThen k) := by
  intro cs y left h
  obtain ⟨⟨x, rest⟩, hx, hy⟩ := Option.bind_eq_some_iff.mp h
  exact Nat.lt_of_le_of_lt ((hk x).length_le hy) (hg cs x rest hx)

theorem Consumes.ifHead {c : Char} {h : Reader α} (hg : Regular cut g) (hh : Consumes h) :
    Consumes (ifHead c g h) := by
  intro cs x rest hx
  cases cs with
  | nil => exact hh [] x rest hx
  | cons d cs =>
      simp only [Reader.ifHead] at hx
      split at hx
      next => exact Nat.lt_succ_of_le (hg.length_le hx)
      next => exact hh _ x rest hx

theorem Consumes.ifBoth {c d : Char} {h : Reader α} (hg : Regular cut g) (hh : Consumes h) :
    Consumes (ifBoth c d g h) := by
  intro cs y rest hy
  match cs with
  | [] => exact hh [] y rest hy
  | [a] => exact hh [a] y rest hy
  | a :: b :: cs =>
      simp only [Reader.ifBoth] at hy
      split at hy
      next =>
        have hle : rest.length ≤ cs.length := hg.length_le hy
        simp only [List.length_cons]
        omega
      next => exact hh _ y rest hy

/-- What a reader leaves in front of a parenthesis, it leaves of the text alone too, and in front of any other
text behind the parenthesis; if it is not cut short. -/
theorem Stops.of_append {x : α} {after : List Char} (h : g.Stops cut cs)
    (hx : g (cs ++ ')' :: after) = some (x, rest ++ ')' :: after)) :
    (g cs = some (x, rest) ∧ ∀ after, g (cs ++ ')' :: after) = some (x, rest ++ ')' :: after)) ∨
      g cs = none ∧ cut x rest := by
  rcases h with ⟨y, left, hy, hstays⟩ | h
  · obtain ⟨rfl, rfl⟩ : y = x ∧ left = rest := by simpa using (hstays after).symm.trans hx
    exact .inl ⟨hy, hstays⟩
  · rcases h.beyond after x _ hx with hleft | ⟨hcs, left, hleft, hcut⟩
    · have hle := hleft.length_le
      simp only [List.length_append, List.length_cons] at hle
      omega
    · obtain rfl : rest = left := by simpa using hleft
      exact .inr ⟨hcs, hcut⟩

end Reader

/-! ## Blanks and comments -/

theorem dropWhile_append_of_eq_cons {p : Char → Bool} {cs rest : List Char} {c : Char}
    (h : cs.dropWhile p = c :: rest) (after : List Char) :
    (cs ++ after).dropWhile p = c :: (rest ++ after) := by
  simp [List.dropWhile_append, h]

theorem takeWhile_append_of_eq_cons {p : Char → Bool} {cs rest : List Char} {c : Char}
    (h : cs.dropWhile p = c :: rest) (after : List Char) : (cs ++ after).takeWhile p = cs.takeWhile p := by
  have hsplit := congrArg List.length (List.takeWhile_append_dropWhile (p := p) (l := cs))
  simp only [h, List.length_append, List.length_cons] at hsplit
  rw [List.takeWhile_append, if_neg (by omega)]

section Ignored

variable {cs : List Char}

@[simp] theorem isBlank_closeParen : isBlank ')' = false := by decide

/-- A closing parenthesis ends a row of blanks. -/
theorem dropWhile_isBlank_append (cs after : List Char) :
    (cs ++ ')' :: after).dropWhile isBlank = cs.dropWhile isBlank ++ ')' :: after := by
  induction cs with
  | nil => simp
  | cons c cs ih =>
      simp only [List.cons_append, List.dropWhile_cons]
      split
      next => exact ih
      next => rfl

/-- Reading on what is left after blanks. -/
theorem regular_afterBlanks {α : Type} {cut : α → List Char → Prop} {g : Reader α}
    (hg : Reader.Regular cut g) : Reader.Regular cut fun cs => g (cs.dropWhile isBlank) where
  suffix cs x rest h := (hg.suffix _ x rest h).trans (List.dropWhile_suffix _)
  stops cs := (hg.stops (cs.dropWhile isBlank)).congr rfl fun after => by rw [dropWhile_isBlank_append]

namespace Flags

theorem dropIgnored_suffix (inComment : Bool) (cs : List Char) : dropIgnored inComment cs <:+ cs := by
  induction cs generalizing inComment with
  | nil => exact List.suffix_rfl
  | cons c cs ih =>
      unfold dropIgnored
      split
      next => exact (ih _).trans (List.suffix_cons c cs)
      next =>
        split
        next => exact (ih _).trans (List.suffix_cons c cs)
        next =>
          split
          next => exact (ih _).trans (List.suffix_cons c cs)
          next => exact List.suffix_rfl

theorem skip_suffix (f : Flags) (cs : List Char) : f.skip cs <:+ cs := by
  unfold skip
  split
  next => exact dropIgnored_suffix false cs
  next => exact List.suffix_rfl

theorem dropIgnored_true_of_not_mem (h : '\n' ∉ cs) : dropIgnored true cs = [] := by
  induction cs with
  | nil => rfl
  | cons c cs ih =>
      obtain ⟨hc, hcs⟩ : '\n' ≠ c ∧ '\n' ∉ cs := by simpa using h
      simpa [dropIgnored, bne_iff_ne.mpr hc.symm] using ih hcs

/-- A closing parenthesis is not passed over, unless it is in a comment. -/
theorem dropIgnored_append (inComment : Bool) (cs : List Char) :
    (∀ after, dropIgnored inComment (cs ++ ')' :: after) = dropIgnored inComment cs ++ ')' :: after) ∨
      dropIgnored inComment cs = [] ∧
        ∀ after, dropIgnored inComment (cs ++ ')' :: after) = dropIgnored true after := by
  induction cs generalizing inComment with
  | nil => cases inComment <;> simp [dropIgnored]
  | cons c cs ih =>
      simp only [List.cons_append, dropIgnored]
      split
      next => exact ih _
      next =>
        split
        next => exact ih _
        next =>
          split
          next => exact ih _
          next => exact .inl fun _ => rfl

theorem skip_append (f : Flags) (cs : List Char) :
    (∀ after, f.skip (cs ++ ')' :: after) = f.skip cs ++ ')' :: after) ∨
      f.skip cs = [] ∧ ∀ after, f.skip (cs ++ ')' :: after) = dropIgnored true after := by
  unfold skip
  split
  next => exact dropIgnored_append false cs
  next => exact .inl fun _ => rfl

@[simp] theorem skip_nil (f : Flags) : f.skip [] = [] := by
  simp [skip, dropIgnored]

@[simp] theorem skip_closeParen (f : Flags) (after : List Char) : f.skip (')' :: after) = ')' :: after := by
  simp [skip, dropIgnored]

/-- Passing over blanks and comments, as a reader. -/
def skipped (f : Flags) : Reader Unit := fun cs => some ((), f.skip cs)

theorem regular_skipped (f : Flags) : Reader.Regular Reader.Uncut f.skipped where
  suffix cs x rest h := by
    obtain rfl : f.skip cs = rest := by simpa [skipped] using h
    exact f.skip_suffix cs
  stops cs := by
    rcases f.skip_append cs with h | ⟨hcs, h⟩
    · exact .of_eq_some _ _ rfl fun after => by simp [skipped, h after]
    · refine .inr ⟨fun x rest hx => ?_, fun after x left hx => ?_⟩
      · obtain rfl : [] = rest := by simpa [skipped, hcs] using hx
        exact ⟨rfl, fun after hno => by simp [skipped, h after, dropIgnored_true_of_not_mem hno]⟩
      · obtain rfl : dropIgnored true after = left := by simpa [skipped, h after] using hx
        exact .inl (dropIgnored_suffix true after)

theorem length_skip_le (f : Flags) (cs : List Char) : (f.skip cs).length ≤ cs.length :=
  (f.skip_suffix cs).length_le

/-- Reading on what is left after blanks and comments. -/
theorem regular_afterSkip {α : Type} {cut : α → List Char → Prop} {g : Reader α} (f : Flags)
    (hg : Reader.Regular cut g) : Reader.Regular cut fun cs => g (f.skip cs) :=
  (f.regular_skipped.andThen_of_uncut fun _ => hg).congr fun _ => rfl

end Flags

end Ignored

end NameLint.Regex
