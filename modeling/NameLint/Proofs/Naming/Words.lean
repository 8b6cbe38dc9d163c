import NameLint.Proofs.Naming.Splitting

/-!
# The words of a name

The words hold the letters and digits of a name, all of them and in order. Within a run of letters and digits a new
word begins with a capital only, so that a digit begins a word just where it begins a run.
-/

namespace NameLint.Naming

open NameLint.Unicode

/-! ## What the words hold -/

theorem ne_nil_of_mem_finishedWord {word w : List Char} (h : w ∈ finishedWord word) : w ≠ [] := by
  unfold finishedWord at h
  split at h
  · cases h
  · rw [List.mem_singleton.mp h]
    simpa using ‹¬ word.isEmpty = true›

theorem ne_nil_of_mem_wordsFrom {word cs w : List Char} (h : w ∈ wordsFrom word cs) : w ≠ [] := by
  fun_induction wordsFrom word cs with
  | case1 word => exact ne_nil_of_mem_finishedWord h
  | case2 word c rest _ ih | case3 word c rest _ _ ih =>
      rcases List.mem_append.mp h with hfinished | hlater
      · exact ne_nil_of_mem_finishedWord hfinished
      · exact ih hlater
  | case4 word c rest _ _ ih => exact ih h

theorem ne_nil_of_mem_splitWords {name w : List Char} (h : w ∈ splitWords name) : w ≠ [] :=
  ne_nil_of_mem_wordsFrom h

theorem flatten_finishedWord (word : List Char) : (finishedWord word).flatten = word.reverse := by
  unfold finishedWord
  split
  next hempty => rw [List.isEmpty_iff.mp hempty]; rfl
  next => simp

theorem flatten_wordsFrom (word cs : List Char) :
    (wordsFrom word cs).flatten = word.reverse ++ cs.filter isAlphanumeric := by
  fun_induction wordsFrom word cs with
  | case1 word => simp [flatten_finishedWord]
  | case2 word c rest hc ih =>
      rw [Bool.not_eq_true'] at hc
      rw [List.flatten_append, flatten_finishedWord, ih, List.filter_cons_of_neg (by simp [hc])]
      rfl
  | case3 word c rest hc _ ih =>
      rw [Bool.not_eq_true', Bool.not_eq_false] at hc
      rw [List.flatten_append, flatten_finishedWord, ih, List.filter_cons_of_pos hc]
      rfl
  | case4 word c rest hc _ ih =>
      rw [Bool.not_eq_true', Bool.not_eq_false] at hc
      rw [ih, List.filter_cons_of_pos hc, List.reverse_cons, List.append_assoc]
      rfl

/-- The words put together are the letters and digits of the name. -/
theorem flatten_splitWords (name : List Char) : (splitWords name).flatten = name.filter isAlphanumeric :=
  flatten_wordsFrom [] name

section Ascii

variable {name : List Char}

theorem flatten_splitWords_of_ascii (h : ∀ c ∈ name, isAscii c = true) :
    (splitWords name).flatten = name.filter Char.isAlphanum := by
  rw [flatten_splitWords]
  exact List.filter_congr fun c hc => isAlphanumeric_of_isAscii (h c hc)

theorem isAlphanum_of_mem_splitWords (h : ∀ c ∈ name, isAscii c = true) :
    ∀ word ∈ splitWords name, ∀ c ∈ word, c.isAlphanum = true := by
  intro word hword c hc
  have hmem : c ∈ (splitWords name).flatten := List.mem_flatten.mpr ⟨word, hword, hc⟩
  rw [flatten_splitWords_of_ascii h] at hmem
  exact (List.mem_filter.mp hmem).2

theorem splitWords_eq_nil_iff (h : ∀ c ∈ name, isAscii c = true) :
    splitWords name = [] ↔ ∀ c ∈ name, c.isAlphanum = false := by
  have hflatten := flatten_splitWords_of_ascii h
  constructor
  · intro hnone
    rw [hnone, List.flatten_nil, eq_comm, List.filter_eq_nil_iff] at hflatten
    simpa using hflatten
  · intro hnone
    rw [List.filter_eq_nil_iff.mpr (by simpa using hnone), List.flatten_eq_nil_iff] at hflatten
    exact List.eq_nil_iff_forall_not_mem.mpr fun word hword =>
      ne_nil_of_mem_splitWords hword (hflatten word hword)

end Ascii

/-! ## Digits that begin a word -/

/-- A word that begins with a digit. -/
def BeginsDigit (word : List Char) : Prop :=
  ∃ c ∈ word.head?, c.isDigit = true

theorem beginsDigit_cons {c : Char} {word : List Char} : BeginsDigit (c :: word) ↔ c.isDigit = true := by
  simp [BeginsDigit]

theorem beginsDigit_append {word : List Char} (h : word ≠ []) (rest : List Char) :
    BeginsDigit (word ++ rest) ↔ BeginsDigit word := by
  obtain ⟨c, word, rfl⟩ := List.exists_cons_of_ne_nil h
  rw [List.cons_append, beginsDigit_cons, beginsDigit_cons]

/-- A digit is the first letter or digit of a name. -/
def DigitComesFirst (name : List Char) : Prop :=
  ∃ c ∈ name.find? Char.isAlphanum, c.isDigit = true

/-- The maximal runs of letters and digits in a name. -/
def runs (name : List Char) : List (List Char) :=
  (name.splitOnP (!·.isAlphanum)).filter (!·.isEmpty)

/-- Some run of letters and digits begins with a digit. -/
def DigitBeginsRun (name : List Char) : Prop :=
  ∃ run ∈ runs name, BeginsDigit run

theorem digitBeginsRun_iff (name : List Char) :
    DigitBeginsRun name ↔ ∃ part ∈ name.splitOnP (!·.isAlphanum), BeginsDigit part := by
  unfold DigitBeginsRun runs
  constructor
  · rintro ⟨run, hrun, hdigit⟩
    exact ⟨run, (List.mem_filter.mp hrun).1, hdigit⟩
  · rintro ⟨part, hpart, c, hc, hdigit⟩
    refine ⟨part, List.mem_filter.mpr ⟨hpart, ?_⟩, c, hc, hdigit⟩
    rw [Bool.not_eq_true', List.isEmpty_eq_false_iff]
    rintro rfl
    cases hc

section Runs

variable {word rest : List Char} {c : Char}

theorem splitOnP_alphanum_append (h : ∀ c ∈ word, c.isAlphanum = true) (rest : List Char) :
    (word ++ rest).splitOnP (!·.isAlphanum) =
      (rest.splitOnP (!·.isAlphanum)).modifyHead (word ++ ·) := by
  induction word with
  | nil => exact (congrFun List.modifyHead_id _).symm
  | cons c word ih =>
      obtain ⟨hc, hword⟩ := List.forall_mem_cons.mp h
      rw [List.cons_append, List.splitOnP_cons_eq_if_modifyHead, hc, ih hword]
      cases rest.splitOnP (!·.isAlphanum) <;> rfl

/-- Letters and digits in front of a run belong to the run. -/
theorem digitBeginsRun_append (h : ∀ c ∈ word, c.isAlphanum = true) (hne : word ≠ []) :
    DigitBeginsRun (word ++ rest) ↔ BeginsDigit word ∨
      ∃ part ∈ (rest.splitOnP (!·.isAlphanum)).tail, BeginsDigit part := by
  rw [digitBeginsRun_iff, splitOnP_alphanum_append h]
  obtain ⟨first, parts, hparts⟩ := List.exists_cons_of_ne_nil (List.splitOnP_ne_nil (!·.isAlphanum) rest)
  rw [hparts, List.modifyHead_cons, List.exists_mem_cons_iff, beginsDigit_append hne, List.tail_cons]

theorem digitBeginsRun_alphanum (h : ∀ c ∈ word, c.isAlphanum = true) :
    DigitBeginsRun word ↔ BeginsDigit word := by
  rw [digitBeginsRun_iff, List.splitOnP_eq_singleton fun c hc => by simp [h c hc]]
  simp

theorem digitBeginsRun_separator (hc : c.isAlphanum = false) (first rest : List Char) :
    DigitBeginsRun (first ++ c :: rest) ↔ DigitBeginsRun first ∨ DigitBeginsRun rest := by
  simp only [digitBeginsRun_iff]
  rw [List.splitOnP_append_cons first rest (by simp [hc])]
  simp only [List.mem_append, or_and_right, exists_or]

/-- A capital within a run begins no run with a digit. -/
theorem digitBeginsRun_upper (h : ∀ c ∈ word, c.isAlphanum = true) (hne : word ≠ []) (hc : c.isUpper = true) :
    DigitBeginsRun (word ++ c :: rest) ↔ BeginsDigit word ∨ DigitBeginsRun (c :: rest) := by
  have hcapital : ∀ d ∈ [c], d.isAlphanum = true :=
    List.forall_mem_singleton.mpr (isAlphanum_of_isUpper hc)
  have hdigit : ¬ BeginsDigit [c] := fun hdigit =>
    not_isUpper_of_isLowerOrDigit (isLowerOrDigit_of_isDigit (beginsDigit_cons.mp hdigit)) hc
  have hword : ∀ d ∈ word ++ [c], d.isAlphanum = true := List.forall_mem_append.mpr ⟨h, hcapital⟩
  rw [← List.singleton_append, ← List.append_assoc, digitBeginsRun_append hword (by simp),
    digitBeginsRun_append hcapital (by simp), beginsDigit_append hne, or_iff_right hdigit]

theorem exists_beginsDigit_finishedWord (word : List Char) :
    (∃ w ∈ finishedWord word, BeginsDigit w) ↔ BeginsDigit word.reverse := by
  unfold finishedWord
  split
  next hempty => rw [List.isEmpty_iff.mp hempty]; simp [BeginsDigit]
  next => simp

/-- A word begins with a digit just where a run of letters and digits does. -/
theorem exists_beginsDigit_wordsFrom (hword : ∀ c ∈ word, c.isAlphanum = true)
    (hrest : ∀ c ∈ rest, isAscii c = true) :
    (∃ w ∈ wordsFrom word rest, BeginsDigit w) ↔ DigitBeginsRun (word.reverse ++ rest) := by
  have hreverse : ∀ {word : List Char}, (∀ c ∈ word, c.isAlphanum = true) →
      ∀ c ∈ word.reverse, c.isAlphanum = true := fun h c hc => h c (List.mem_reverse.mp hc)
  fun_induction wordsFrom word rest with
  | case1 word =>
      rw [exists_beginsDigit_finishedWord, List.append_nil, digitBeginsRun_alphanum (hreverse hword)]
  | case2 word c rest hc ih =>
      obtain ⟨hascii, hrest⟩ := List.forall_mem_cons.mp hrest
      rw [Bool.not_eq_true', isAlphanumeric_of_isAscii hascii] at hc
      have hlater := ih (by simp) hrest
      rw [List.reverse_nil, List.nil_append] at hlater
      simp only [List.mem_append, or_and_right, exists_or]
      rw [digitBeginsRun_separator hc, digitBeginsRun_alphanum (hreverse hword)]
      exact or_congr (exists_beginsDigit_finishedWord word) hlater
  | case3 word c rest hc hbegins ih =>
      obtain ⟨hascii, hrest⟩ := List.forall_mem_cons.mp hrest
      obtain ⟨hne, hupper⟩ : word ≠ [] ∧ c.isUpper = true := by
        cases word with
        | nil => cases hbegins
        | cons p word =>
            rw [beginsWord, Bool.and_eq_true, isUppercase_of_isAscii hascii] at hbegins
            exact ⟨List.cons_ne_nil p word, hbegins.1⟩
      have hlater := ih (List.forall_mem_singleton.mpr (isAlphanum_of_isUpper hupper)) hrest
      rw [List.reverse_singleton, List.singleton_append] at hlater
      simp only [List.mem_append, or_and_right, exists_or]
      rw [digitBeginsRun_upper (hreverse hword) (by simpa using hne) hupper]
      exact or_congr (exists_beginsDigit_finishedWord word) hlater
  | case4 word c rest hc _ ih =>
      obtain ⟨hascii, hrest⟩ := List.forall_mem_cons.mp hrest
      rw [Bool.not_eq_true', Bool.not_eq_false, isAlphanumeric_of_isAscii hascii] at hc
      have hlater := ih (List.forall_mem_cons.mpr ⟨hc, hword⟩) hrest
      rwa [List.reverse_cons, List.append_assoc, List.singleton_append] at hlater

end Runs

section Ascii

variable {name : List Char}

theorem exists_beginsDigit_splitWords (h : ∀ c ∈ name, isAscii c = true) :
    (∃ word ∈ splitWords name, BeginsDigit word) ↔ DigitBeginsRun name :=
  exists_beginsDigit_wordsFrom (by simp) h

/-- The first word begins with the first letter or digit of the name. -/
theorem beginsDigit_head?_splitWords (h : ∀ c ∈ name, isAscii c = true) :
    (∃ word ∈ (splitWords name).head?, BeginsDigit word) ↔ DigitComesFirst name := by
  have hfirst : name.find? Char.isAlphanum = (splitWords name).flatten.head? := by
    rw [flatten_splitWords_of_ascii h, List.head?_filter]
  rw [DigitComesFirst, hfirst]
  cases hwords : splitWords name with
  | nil => simp
  | cons word words =>
      have hne : word ≠ [] := ne_nil_of_mem_splitWords (hwords ▸ List.mem_cons_self)
      obtain ⟨c, word, rfl⟩ := List.exists_cons_of_ne_nil hne
      simp [beginsDigit_cons]

end Ascii

end NameLint.Naming
