import NameLint.Proofs.Naming.Words

/-!
# Where the words of a name part

The words are pieces of the name, parted by what is no letter or digit or by the place where a capital begins a new
word. No word has such a place inside it, and two words with nothing between them always part at one.
-/

namespace NameLint.Naming

open NameLint.Unicode

variable {name word rest before after u v w : List Char} {words earlier later : List (List Char)} {p c d : Char}

/-! ## Places where a word begins -/

/-- A new word begins with the capital `c` behind `p` when `rest` comes next: `p` is a small letter or numeric,
or it is a capital too and a small letter comes next. -/
def PartsAt (p c : Char) (rest : List Char) : Prop :=
  isUppercase c = true ∧ ((isLowercase p = true ∨ isNumeric p = true) ∨
    isUppercase p = true ∧ ∃ d ∈ rest.head?, isLowercase d = true)

theorem lowerComesNext_iff (rest : List Char) :
    lowerComesNext rest = true ↔ ∃ d ∈ rest.head?, isLowercase d = true := by
  cases rest with
  | nil => simp [lowerComesNext]
  | cons d rest => simp [lowerComesNext]

theorem beginsWord_cons_iff (p c : Char) (word rest : List Char) :
    beginsWord (p :: word) c rest = true ↔ PartsAt p c rest := by
  simp only [beginsWord, Bool.and_eq_true, Bool.or_eq_true, lowerComesNext_iff, PartsAt]

/-- No new word begins inside `word` when `rest` comes behind it. -/
def Unparted (word rest : List Char) : Prop :=
  ∀ u p c v, word = u ++ p :: c :: v → ¬ PartsAt p c (v ++ rest)

theorem unparted_nil (rest : List Char) : Unparted [] rest := by
  intro u p c v h
  simp at h

/-- A word goes on with a character that begins no new one. -/
theorem Unparted.concat (h : Unparted word (c :: rest)) (hc : ∀ p ∈ word.getLast?, ¬ PartsAt p c rest) :
    Unparted (word ++ [c]) rest := by
  intro u p d v hcut
  rcases List.eq_nil_or_concat v with rfl | ⟨v, last, rfl⟩
  · -- The cut is in front of `c`.
    have hword : word ++ [c] = (u ++ [p]) ++ [d] := by rw [hcut, List.append_assoc]; rfl
    obtain ⟨rfl, rfl⟩ := List.append_singleton_inj.mp hword
    exact hc p (by simp)
  · have hword : word ++ [c] = (u ++ p :: d :: v) ++ [last] := by simp [hcut]
    obtain ⟨rfl, rfl⟩ := List.append_singleton_inj.mp hword
    have hparts := h u p d v rfl
    rwa [List.concat_eq_append, List.append_assoc]

/-! ## Dividing a name -/

/-- Words that a name divides into: what is neither letter nor digit is in none of them, and behind a word comes
such a character, the end, or a place where a new word begins. -/
inductive Divides : List Char → List (List Char) → Prop
  | nil : Divides [] []
  | separator {c : Char} {rest : List Char} {words : List (List Char)} (outside : isAlphanumeric c = false)
      (divides : Divides rest words) : Divides (c :: rest) words
  | word {w rest : List Char} {words : List (List Char)} (nonempty : w ≠ [])
      (inside : ∀ c ∈ w, isAlphanumeric c = true) (unparted : Unparted w rest)
      (ends : ∀ p ∈ w.getLast?, ∀ c after, rest = c :: after → isAlphanumeric c = true → PartsAt p c after)
      (divides : Divides rest words) : Divides (w ++ rest) (w :: words)

/-- The word that has been gathered is the first, if there is any. -/
theorem Divides.finishedWord_append (h : Divides rest words) (inside : ∀ c ∈ word, isAlphanumeric c = true)
    (unparted : Unparted word.reverse rest)
    (ends : ∀ p ∈ word.head?, ∀ c after, rest = c :: after → isAlphanumeric c = true → PartsAt p c after) :
    Divides (word.reverse ++ rest) (finishedWord word ++ words) := by
  cases word with
  | nil => exact h
  | cons p word =>
      refine .word (by simp) (fun c hc => inside c (List.mem_reverse.mp hc)) unparted ?_ h
      rw [List.getLast?_reverse]
      exact ends

theorem divides_wordsFrom (inside : ∀ c ∈ word, isAlphanumeric c = true) (unparted : Unparted word.reverse rest) :
    Divides (word.reverse ++ rest) (wordsFrom word rest) := by
  fun_induction wordsFrom word rest with
  | case1 word =>
      have hword := Divides.nil.finishedWord_append inside unparted (by simp)
      rwa [List.append_nil (finishedWord word)] at hword
  | case2 word c rest hc ih =>
      rw [Bool.not_eq_true'] at hc
      refine ((ih (by simp) (unparted_nil rest)).separator hc).finishedWord_append inside unparted ?_
      rintro p - c' after ⟨⟩ hafter
      exact absurd hafter (by simp [hc])
  | case3 word c rest hc hbegins ih =>
      rw [Bool.not_eq_true', Bool.not_eq_false] at hc
      have hlater := ih (by simpa using hc) ((unparted_nil _).concat (by simp))
      refine hlater.finishedWord_append inside unparted ?_
      rintro p hp c' after ⟨⟩ -
      cases word with
      | nil => cases hp
      | cons q word =>
          cases hp
          exact (beginsWord_cons_iff p c word rest).mp hbegins
  | case4 word c rest hc hbegins ih =>
      rw [Bool.not_eq_true', Bool.not_eq_false] at hc
      have hnext : ∀ p ∈ word.reverse.getLast?, ¬ PartsAt p c rest := by
        rw [List.getLast?_reverse]
        intro p hp hparts
        cases word with
        | nil => cases hp
        | cons q word =>
            cases hp
            exact hbegins ((beginsWord_cons_iff p c word rest).mpr hparts)
      have hlater := ih (List.forall_mem_cons.mpr ⟨hc, inside⟩)
        (by rw [List.reverse_cons]; exact unparted.concat hnext)
      rwa [List.reverse_cons, List.append_assoc] at hlater

theorem divides_splitWords (name : List Char) : Divides name (splitWords name) := by
  have hnothing : Unparted ([] : List Char).reverse name := unparted_nil name
  exact divides_wordsFrom (by simp) hnothing

/-! ## The words and what is between them -/

namespace Divides

theorem mem (h : Divides name words) (hw : w ∈ words) :
    w ≠ [] ∧ (∀ c ∈ w, isAlphanumeric c = true) ∧ ∃ rest, Unparted w rest := by
  induction h with
  | nil => cases hw
  | separator outside divides ih => exact ih hw
  | word nonempty inside unparted ends divides ih =>
      rcases List.mem_cons.mp hw with rfl | hlater
      · exact ⟨nonempty, inside, _, unparted⟩
      · exact ih hlater

/-- A word begins with a letter or digit. -/
theorem exists_eq_cons (h : Divides name words) (hw : w ∈ words) :
    ∃ c tail, w = c :: tail ∧ isAlphanumeric c = true := by
  obtain ⟨hne, hinside, -⟩ := h.mem hw
  obtain ⟨c, tail, rfl⟩ := List.exists_cons_of_ne_nil hne
  exact ⟨c, tail, rfl, hinside c List.mem_cons_self⟩

end Divides

/-- A piece of a name stands between `before` and `after`, and the letters and digits before it are those of the
words `earlier`. -/
structure StandsBehind (name : List Char) (earlier : List (List Char)) (before piece after : List Char) : Prop where
  eq : name = before ++ (piece ++ after)
  earlier_eq : before.filter isAlphanumeric = earlier.flatten

namespace StandsBehind

/-- Behind a separator the piece stands as before. -/
theorem of_separator (h : StandsBehind (c :: rest) earlier before (d :: v) after)
    (hc : isAlphanumeric c = false) (hd : isAlphanumeric d = true) :
    ∃ before', StandsBehind rest earlier before' (d :: v) after := by
  obtain ⟨heq, hearlier⟩ := h
  cases before with
  | nil =>
      obtain ⟨rfl, -⟩ := List.cons.inj heq
      rw [hc] at hd
      cases hd
  | cons b before =>
      obtain ⟨rfl, hrest⟩ := List.cons.inj heq
      rw [List.filter_cons_of_neg (by simp [hc])] at hearlier
      exact ⟨before, hrest, hearlier⟩

/-- Nothing stands in front of a word that the name begins with. -/
theorem before_eq_nil (h : StandsBehind (w ++ rest) [] before v after) (nonempty : w ≠ [])
    (inside : ∀ c ∈ w, isAlphanumeric c = true) : before = [] := by
  obtain ⟨heq, hearlier⟩ := h
  obtain ⟨c, tail, rfl⟩ := List.exists_cons_of_ne_nil nonempty
  cases before with
  | nil => rfl
  | cons b before =>
      obtain ⟨rfl, -⟩ := List.cons.inj heq
      rw [List.filter_cons_of_pos (inside c List.mem_cons_self)] at hearlier
      cases hearlier

/-- The first word is where its letters and digits are. -/
theorem of_word (h : StandsBehind (w ++ rest) (w :: earlier) before v after)
    (inside : ∀ c ∈ w, isAlphanumeric c = true) :
    ∃ before', before = w ++ before' ∧ StandsBehind rest earlier before' v after := by
  obtain ⟨heq, hearlier⟩ := h
  have hfilter : ∀ {x : List Char}, (∀ c ∈ x, isAlphanumeric c = true) → x.filter isAlphanumeric = x :=
    fun h => List.filter_eq_self.mpr h
  rcases List.append_eq_append_iff.mp heq with ⟨x, rfl, hrest⟩ | ⟨x, rfl, hrest⟩
  · rw [List.filter_append, hfilter inside, List.flatten_cons] at hearlier
    exact ⟨x, rfl, hrest, List.append_cancel_left hearlier⟩
  · -- All of `before` is in the word, and has as many letters and digits as the word.
    rw [hfilter fun c hc => inside c (List.mem_append_left _ hc), List.flatten_cons, List.append_assoc] at hearlier
    obtain ⟨rfl, hempty⟩ := List.append_eq_nil_iff.mp (List.self_eq_append_right.mp hearlier)
    exact ⟨[], by simp, hrest.symm, hempty.symm⟩

end StandsBehind

namespace Divides

/-- Every word stands somewhere in the name, behind the words before it. -/
theorem exists_standsBehind (h : Divides name words) (hwords : words = earlier ++ w :: later) :
    ∃ before after, StandsBehind name earlier before w after := by
  induction h generalizing earlier with
  | nil => simp at hwords
  | separator outside divides ih =>
      rename_i c rest words
      obtain ⟨before, after, heq, hearlier⟩ := ih hwords
      refine ⟨c :: before, after, by rw [heq]; rfl, ?_⟩
      rw [List.filter_cons_of_neg (by simp [outside]), hearlier]
  | word nonempty inside unparted ends divides ih =>
      rename_i first rest words
      cases earlier with
      | nil =>
          obtain ⟨rfl, -⟩ := List.cons.inj hwords
          exact ⟨[], rest, rfl, rfl⟩
      | cons e earlier =>
          obtain ⟨rfl, hlater⟩ := List.cons.inj hwords
          obtain ⟨before, after, heq, hearlier⟩ := ih hlater
          refine ⟨first ++ before, after, by rw [heq, List.append_assoc], ?_⟩
          rw [List.filter_append, List.filter_eq_self.mpr inside, hearlier, List.flatten_cons]

/-- Two words with nothing between them part where a new word begins. -/
theorem partsAt (h : Divides name words) (hwords : words = earlier ++ v :: w :: later)
    (hstands : StandsBehind name earlier before (v ++ w) after) :
    ∃ p ∈ v.getLast?, ∃ c tail, w = c :: tail ∧ PartsAt p c (tail ++ after) := by
  induction h generalizing earlier before with
  | nil => simp at hwords
  | separator outside divides ih =>
      obtain ⟨d, tail, rfl, hd⟩ := divides.exists_eq_cons (w := v) (by simp [hwords])
      obtain ⟨before', hstands'⟩ := hstands.of_separator outside hd
      exact ih hwords hstands'
  | word nonempty inside unparted ends divides ih =>
      rename_i first rest words
      cases earlier with
      | nil =>
          obtain ⟨rfl, rfl⟩ := List.cons.inj hwords
          obtain ⟨c, tail, rfl, hc⟩ := divides.exists_eq_cons List.mem_cons_self
          obtain rfl := hstands.before_eq_nil nonempty inside
          have hrest : rest = c :: (tail ++ after) := by simpa using hstands.eq
          have hlast : first.getLast nonempty ∈ first.getLast? := List.getLast?_eq_some_getLast nonempty
          exact ⟨_, hlast, c, tail, rfl, ends _ hlast c _ hrest hc⟩
      | cons e earlier =>
          obtain ⟨rfl, hlater⟩ := List.cons.inj hwords
          obtain ⟨before', -, hstands'⟩ := hstands.of_word inside
          exact ih hlater hstands'

end Divides

/-! ## The words of a name -/

/-- In a word no capital comes directly behind a small letter or a numeric character. -/
theorem Unparted.not_upper_behind (h : Unparted word rest) (hpart : [p, c] <:+: word) (hc : isUppercase c = true) :
    isLowercase p = false ∧ isNumeric p = false := by
  obtain ⟨u, v, rfl⟩ := hpart
  have hparts := h u p c v (by simp)
  simp only [PartsAt, hc, true_and, not_or, Bool.not_eq_true] at hparts
  exact hparts.1

/-- In a word no small letter comes directly behind two capitals. -/
theorem Unparted.not_lower_behind (h : Unparted word rest) (hpart : [p, c, d] <:+: word)
    (hp : isUppercase p = true) (hc : isUppercase c = true) : isLowercase d = false := by
  obtain ⟨u, v, rfl⟩ := hpart
  have hparts := h u p c (d :: v) (by simp)
  simp only [PartsAt, hc, true_and, not_or, hp, List.cons_append, List.head?_cons, Option.mem_some_iff,
    exists_eq_left', Bool.not_eq_true] at hparts
  exact hparts.2

/-- The words of a name are made of letters and digits, and all those of the name are in them, in order. No word
has a capital behind a small letter or a numeric character, or two capitals in front of a small letter. Every word is
a piece of the name, and where two of them stand side by side, one of these two places is between them. -/
theorem splitWords_parts (name : List Char) :
    (∀ w ∈ splitWords name, w ≠ [] ∧ ∀ c ∈ w, isAlphanumeric c = true) ∧
    (splitWords name).flatten = name.filter isAlphanumeric ∧
    (∀ w ∈ splitWords name,
      (∀ p c, [p, c] <:+: w → ¬ (isUppercase c = true ∧ (isLowercase p = true ∨ isNumeric p = true))) ∧
      ∀ p c d, [p, c, d] <:+: w → ¬ (isUppercase p = true ∧ isUppercase c = true ∧ isLowercase d = true)) ∧
    (∀ earlier w later, splitWords name = earlier ++ w :: later →
      ∃ before after, StandsBehind name earlier before w after) ∧
    ∀ earlier v w later before after, splitWords name = earlier ++ v :: w :: later →
      StandsBehind name earlier before (v ++ w) after →
      ∃ p ∈ v.getLast?, ∃ c tail, w = c :: tail ∧ PartsAt p c (tail ++ after) := by
  have hdivides := divides_splitWords name
  refine ⟨?letters, flatten_splitWords name, ?unparted, ?pieces, ?parted⟩
  case letters =>
    intro w hw
    obtain ⟨hne, hinside, -⟩ := hdivides.mem hw
    exact ⟨hne, hinside⟩
  case unparted =>
    intro w hw
    obtain ⟨-, -, rest, hunparted⟩ := hdivides.mem hw
    constructor
    · rintro p c hpart ⟨hc, hp⟩
      simp [hunparted.not_upper_behind hpart hc] at hp
    · rintro p c d hpart ⟨hp, hc, hd⟩
      rw [hunparted.not_lower_behind hpart hp hc] at hd
      cases hd
  case pieces =>
    intro earlier w later hwords
    exact hdivides.exists_standsBehind hwords
  case parted =>
    intro earlier v w later before after hwords hstands
    exact hdivides.partsAt hwords hstands

theorem splitWords_parts_http_server :
    splitWords "HTTPServer_v2".toList = [] ++ "HTTP".toList :: "Server".toList :: ["v2".toList] ∧
    StandsBehind "HTTPServer_v2".toList [] [] ("HTTP".toList ++ "Server".toList) "_v2".toList ∧
    ∃ p ∈ "HTTP".toList.getLast?, ∃ c tail, "Server".toList = c :: tail ∧ PartsAt p c (tail ++ "_v2".toList) := by
  have hwords : splitWords "HTTPServer_v2".toList = [] ++ "HTTP".toList :: "Server".toList :: ["v2".toList] := by
    decide
  have hstands : StandsBehind "HTTPServer_v2".toList [] [] ("HTTP".toList ++ "Server".toList) "_v2".toList :=
    ⟨by decide, rfl⟩
  obtain ⟨-, -, -, -, hparted⟩ := splitWords_parts "HTTPServer_v2".toList
  exact ⟨hwords, hstands, hparted _ _ _ _ _ _ hwords hstands⟩

end NameLint.Naming
