import Mathlib.Data.List.Forall2
import Mathlib.Data.Nat.PSub
import NameLint.Proofs.Statement.Groups

/-!
# Statements by position

A statement read by positions in it, as by a program that has its tokens in a row: it takes the token at a
position, the slice between two positions, a jump past a group. Every such access is checked here, and the result
is `none` if one of them is out of range or a loop does not go forward.

Tokens and their marks stand in two rows side by side. Both are views on the one list of marked tokens, and what
is read by position is proved equal to what the list gives.
-/

namespace NameLint.Declaration

open NameLint.Source

variable {α β : Type} {xs : List α} {ts before after : List Token} {ms : List Marked} {n : Nesting} {i : Nat}

/-! ## Slices -/

/-- The part of a list between two positions, if they are in order and not past its end. -/
def slice? (xs : List α) (start stop : Nat) : Option (List α) :=
  if start ≤ stop ∧ stop ≤ xs.length then some (xs.extract start stop) else none

theorem slice?_append (front part back : List α) :
    slice? (front ++ (part ++ back)) front.length (front.length + part.length) = some part := by
  unfold slice?
  rw [if_pos (by simp)]
  simp

theorem slice?_prefix (part back : List α) : slice? (part ++ back) 0 part.length = some part := by
  simpa using slice?_append [] part back

theorem slice?_suffix (front part : List α) :
    slice? (front ++ part) front.length (front ++ part).length = some part := by
  simpa using slice?_append front part []

theorem slice?_take (h : i ≤ xs.length) : slice? xs 0 i = some (xs.take i) := by
  unfold slice?
  rw [if_pos ⟨Nat.zero_le i, h⟩]
  simp

theorem slice?_map (f : α → β) (xs : List α) (start stop : Nat) :
    slice? (xs.map f) start stop = (slice? xs start stop).map (·.map f) := by
  unfold slice?
  split <;> simp_all [List.map_drop, List.map_take]

/-! ## The first with a property -/

theorem exists_cut_of_findIdx? {p : α → Bool} (h : xs.findIdx? p = some i) :
    ∃ front x back, xs = front ++ x :: back ∧ front.length = i ∧ p x = true ∧ ∀ y ∈ front, p y = false := by
  induction xs generalizing i with
  | nil => simp at h
  | cons x xs ih =>
      rw [List.findIdx?_cons] at h
      split at h
      · rename_i hx
        cases h
        exact ⟨[], x, xs, rfl, rfl, hx, by simp⟩
      · rename_i hx
        obtain ⟨j, hj, rfl⟩ := Option.map_eq_some_iff.mp h
        obtain ⟨front, y, back, rfl, rfl, hy, hfront⟩ := ih hj
        exact ⟨x :: front, y, back, rfl, rfl, hy, List.forall_mem_cons.mpr ⟨by simpa using hx, hfront⟩⟩

/-- The tokens up to the first with a property, or all of them, are never cut past the end. -/
theorem slice?_findIdx? (p : α → Bool) (xs : List α) :
    slice? xs 0 ((xs.findIdx? p).getD xs.length) = some (xs.takeWhile fun x => !p x) := by
  rw [← List.findIdx_eq_getD_findIdx?, slice?_take List.findIdx_le_length, List.takeWhile_eq_take_findIdx_not]
  simp

/-! ## Groups -/

/-- The position past the closing mark that brings the depth back to zero, in tokens that begin at `i`. -/
def groupEnd? (opening closing : String) (depth i : Nat) : List Token → Option Nat
  | [] => none
  | t :: rest =>
    if t.isMark opening then groupEnd? opening closing (depth + 1) (i + 1) rest
    else if t.isMark closing then
      if depth - 1 = 0 then some (i + 1) else groupEnd? opening closing (depth - 1) (i + 1) rest
    else groupEnd? opening closing depth (i + 1) rest

/-- The position past the group that begins at `start`; the end of the tokens if it does not close. -/
def skipGroup (opening closing : String) (ts : List Token) (start : Nat) : Nat :=
  (groupEnd? opening closing 0 start (ts.drop start)).getD ts.length

theorem groupEnd?_getD (opening closing : String) (depth i : Nat) (ts : List Token) :
    (groupEnd? opening closing depth i ts).getD (i + ts.length) =
      i + (splitGroup opening closing depth ts).1.length := by
  induction ts generalizing depth i with
  | nil => simp [groupEnd?, splitGroup]
  | cons t rest ih =>
      have hlength : i + (t :: rest).length = i + 1 + rest.length := by
        simp only [List.length_cons]
        omega
      rw [hlength]
      simp only [groupEnd?, splitGroup]
      split
      · rw [ih, List.length_cons]
        omega
      split
      · rename_i hclosing
        by_cases hdepth : depth ≤ 1
        · rw [if_pos (by omega), if_pos hdepth]
          rfl
        · rw [if_neg (by omega), if_neg hdepth, ih, List.length_cons]
          omega
      · rw [ih, List.length_cons]
        omega

theorem skipGroup_eq (opening closing : String) (front ts : List Token) :
    skipGroup opening closing (front ++ ts) front.length =
      front.length + (splitGroup opening closing 0 ts).1.length := by
  rw [← groupEnd?_getD]
  simp [skipGroup]

/-- A jump never leads past the end, wherever it begins. -/
theorem skipGroup_le (opening closing : String) (ts : List Token) (start : Nat) :
    skipGroup opening closing ts start ≤ ts.length := by
  rcases Nat.le_total start ts.length with hstart | hstart
  · obtain ⟨front, back, rfl, rfl⟩ : ∃ front back, ts = front ++ back ∧ front.length = start :=
      ⟨ts.take start, ts.drop start, by simp, List.length_take_of_le hstart⟩
    have hgroup := congrArg List.length (splitGroup_append opening closing 0 back)
    simp only [List.length_append] at hgroup
    rw [skipGroup_eq, List.length_append]
    omega
  · simp [skipGroup, List.drop_eq_nil_of_le hstart, groupEnd?]

theorem splitGroup_ne_nil (opening closing : String) (depth : Nat) (h : ts ≠ []) :
    (splitGroup opening closing depth ts).1 ≠ [] := by
  cases ts with
  | nil => exact absurd rfl h
  | cons t rest =>
      simp only [splitGroup]
      split <;> (try split) <;> (try split) <;> simp

/-- A jump from a token leads past that token. -/
theorem lt_skipGroup (opening closing : String) (front : List Token) (h : ts ≠ []) :
    front.length < skipGroup opening closing (front ++ ts) front.length := by
  have := List.length_pos_iff.mpr (splitGroup_ne_nil opening closing 0 h)
  rw [skipGroup_eq]
  omega

theorem drop_skipGroup (opening closing : String) (front ts : List Token) :
    (front ++ ts).drop (skipGroup opening closing (front ++ ts) front.length) =
      (splitGroup opening closing 0 ts).2 := by
  rw [skipGroup_eq, ← List.drop_drop, List.drop_left]
  calc ts.drop (splitGroup opening closing 0 ts).1.length
      = ((splitGroup opening closing 0 ts).1 ++ (splitGroup opening closing 0 ts).2).drop
          (splitGroup opening closing 0 ts).1.length := by rw [splitGroup_append]
    _ = (splitGroup opening closing 0 ts).2 := List.drop_left

/-! ## Normalizing -/

/-- Whether the mark with this text comes after a position. -/
def nextIs (ts : List Token) (i : Nat) (text : String) : Bool := ts[i + 1]?.any (·.isMark text)

/-- What is kept of the tokens at a position, and the position from which to go on. -/
def normalizeStep? (ts : List Token) (i : Nat) : Option (List Token × Nat) :=
  ts[i]?.map fun t =>
    if t.isMark "[" && nextIs ts i "[" then ([], skipGroup "[" "]" ts i)
    else if isAttributeWord t && nextIs ts i "(" then ([], skipGroup "(" ")" ts (i + 1))
    else if t.isWord "template" && nextIs ts i "<" then ([], skipGroup "<" ">" ts (i + 1))
    else ([t], i + 1)

/-- Adds to what is kept from a position on. Each step has to lead further: a loop that could stay where it is, or go
back, has no result. -/
def normalizeFrom? (ts : List Token) (i : Nat) (kept : List Token) : Option (List Token) :=
  if i < ts.length then do
    let step ← normalizeStep? ts i
    if i < step.2 then normalizeFrom? ts step.2 (kept ++ step.1) else none
  else some kept
termination_by ts.length - i

def normalizeAt? (ts : List Token) : Option (List Token) := normalizeFrom? ts 0 []

theorem nextIs_append (before : List Token) (t : Token) (after : List Token) (text : String) :
    nextIs (before ++ t :: after) before.length text = after.head?.any (·.isMark text) := by
  rw [nextIs, List.getElem?_append_right (by omega), Nat.add_sub_cancel_left, List.getElem?_cons_succ,
    List.head?_eq_getElem?]

/-- The step at a token, with what comes after the token as a list. -/
theorem normalizeStep?_append (before : List Token) (t : Token) (after : List Token) :
    normalizeStep? (before ++ t :: after) before.length = some (
      if t.isMark "[" && after.head?.any (·.isMark "[") then
        ([], skipGroup "[" "]" (before ++ t :: after) before.length)
      else if isAttributeWord t && after.head?.any (·.isMark "(") then
        ([], skipGroup "(" ")" (before ++ t :: after) (before.length + 1))
      else if t.isWord "template" && after.head?.any (·.isMark "<") then
        ([], skipGroup "<" ">" (before ++ t :: after) (before.length + 1))
      else ([t], before.length + 1)) := by
  rw [normalizeStep?, List.getElem?_append_right (Nat.le_refl _), Nat.sub_self]
  simp only [List.getElem?_cons_zero, Option.map_some, nextIs_append]

theorem normalize_eq (t : Token) (after : List Token) :
    normalize (t :: after) =
      if t.isMark "[" && after.head?.any (·.isMark "[") then normalize (splitGroup "[" "]" 0 (t :: after)).2
      else if isAttributeWord t && after.head?.any (·.isMark "(") then
        normalize (splitGroup "(" ")" 0 after).2
      else if t.isWord "template" && after.head?.any (·.isMark "<") then
        normalize (splitGroup "<" ">" 0 after).2
      else t :: normalize after := by
  cases after with
  | nil => simp [normalize]
  | cons next rest =>
      simp only [List.head?_cons, Option.any_some]
      rw [normalize]
      refine ite_congr rfl (fun h => ?_) fun _ => ite_congr rfl (fun h => ?_) fun _ =>
        ite_congr rfl (fun h => ?_) fun _ => rfl
      · rw [splitGroup_cons_opening 0 (Bool.and_eq_true_iff.mp h).1]
      · rw [splitGroup_cons_opening 0 (Bool.and_eq_true_iff.mp h).2]
      · rw [splitGroup_cons_opening 0 (Bool.and_eq_true_iff.mp h).2]

/-- A jump from the token behind `t` leads past both, and behind the group. -/
theorem skipGroup_next (opening closing : String) (before : List Token) (t : Token) (h : after ≠ []) :
    before.length < skipGroup opening closing (before ++ t :: after) (before.length + 1) ∧
      (before ++ t :: after).drop (skipGroup opening closing (before ++ t :: after) (before.length + 1)) =
        (splitGroup opening closing 0 after).2 := by
  have hlt := lt_skipGroup opening closing (before ++ [t]) h
  have hdrop := drop_skipGroup opening closing (before ++ [t]) after
  simp only [List.length_append, List.length_singleton, List.append_assoc, List.singleton_append] at hlt hdrop
  exact ⟨by omega, hdrop⟩

/-- What a step at a position comes to: it is in range, leads further but not past the end, and what it takes and
what it leaves are what was to be kept. -/
structure GoodStep (ts : List Token) (i : Nat) (taken : List Token) (j : Nat) : Prop where
  step : normalizeStep? ts i = some (taken, j)
  advances : i < j
  inRange : j ≤ ts.length
  keeps : normalize (ts.drop i) = taken ++ normalize (ts.drop j)

theorem exists_goodStep (h : i < ts.length) : ∃ taken j, GoodStep ts i taken j := by
  obtain ⟨before, t, after, rfl, rfl⟩ : ∃ before t after, ts = before ++ t :: after ∧ before.length = i :=
    ⟨ts.take i, ts[i], ts.drop (i + 1), by simp, List.length_take_of_le (Nat.le_of_lt h)⟩
  have hstep := normalizeStep?_append before t after
  have hkeeps := normalize_eq t after
  have hhere : (before ++ t :: after).drop before.length = t :: after := List.drop_left
  split at hstep
  · rename_i hbracket
    rw [if_pos hbracket] at hkeeps
    exact ⟨_, _, hstep, lt_skipGroup _ _ _ (by simp), skipGroup_le .., by
      rw [hhere, hkeeps, drop_skipGroup, List.nil_append]⟩
  rename_i hbracket
  have hafter (text : String) (hnext : after.head?.any (·.isMark text) = true) : after ≠ [] := by
    rintro rfl
    cases hnext
  split at hstep
  · rename_i hattribute
    obtain ⟨hlt, hdrop⟩ := skipGroup_next "(" ")" before t (hafter "(" (Bool.and_eq_true_iff.mp hattribute).2)
    rw [if_neg hbracket, if_pos hattribute] at hkeeps
    exact ⟨_, _, hstep, hlt, skipGroup_le .., by rw [hhere, hkeeps, hdrop, List.nil_append]⟩
  rename_i hattribute
  split at hstep
  · rename_i htemplate
    obtain ⟨hlt, hdrop⟩ := skipGroup_next "<" ">" before t (hafter "<" (Bool.and_eq_true_iff.mp htemplate).2)
    rw [if_neg hbracket, if_neg hattribute, if_pos htemplate] at hkeeps
    exact ⟨_, _, hstep, hlt, skipGroup_le .., by rw [hhere, hkeeps, hdrop, List.nil_append]⟩
  · rename_i htemplate
    rw [if_neg hbracket, if_neg hattribute, if_neg htemplate] at hkeeps
    exact ⟨_, _, hstep, by omega, by simp, by rw [hhere, hkeeps]; simp⟩

/-- From each position the loop keeps what normalizing the tokens from there keeps. -/
theorem normalizeFrom?_eq (ts : List Token) (i : Nat) (kept : List Token) :
    normalizeFrom? ts i kept = some (kept ++ normalize (ts.drop i)) := by
  -- The distance to the end falls with each step.
  induction hdistance : ts.length - i using Nat.strong_induction_on generalizing i kept with
  | _ distance ih =>
      rw [normalizeFrom?]
      split
      · rename_i hi
        obtain ⟨taken, j, h⟩ := exists_goodStep hi
        have hcloser : ts.length - j < distance := by
          have := h.advances
          omega
        rw [h.step, h.keeps, ← List.append_assoc]
        exact (if_pos h.advances).trans (ih _ hcloser j (kept ++ taken) rfl)
      · rename_i hi
        simp [List.drop_eq_nil_of_le (Nat.not_lt.mp hi), normalize]

theorem normalizeAt?_eq (ts : List Token) : normalizeAt? ts = some (normalize ts) := by
  simp [normalizeAt?, normalizeFrom?_eq]

/-! ## Marks -/

/-- Whether each token stands outside all brackets. -/
def marksFrom (n : Nesting) : List Token → List Bool
  | [] => []
  | t :: rest => n.isTop :: marksFrom (n.after t) rest

/-- The marks without their tokens. -/
def marksOf (ms : List Marked) : List Bool := ms.map (·.isTop)

@[simp] theorem length_tokensOf (ms : List Marked) : (tokensOf ms).length = ms.length := by simp [tokensOf]

theorem marksFrom_eq (n : Nesting) (ts : List Token) : marksFrom n ts = marksOf (markTop n ts) := by
  induction ts generalizing n with
  | nil => rfl
  | cons t ts ih => simp only [marksFrom, markTop, marksOf, List.map_cons, ih (n.after t)]

/-- The position of the first token outside all brackets that has a property. -/
def firstTop (ts : List Token) (marks : List Bool) (p : Token → Bool) : Option Nat :=
  (ts.zip marks).findIdx? fun (t, isTop) => isTop && p t

theorem firstTop_eq (ms : List Marked) (p : Token → Bool) :
    firstTop (tokensOf ms) (marksOf ms) p = ms.findIdx? fun m => m.isTop && p m.token := by
  rw [firstTop, tokensOf, marksOf, List.zip_map', List.findIdx?_map]
  rfl

/-- The tokens up to the first one outside all brackets that has a property. -/
theorem slice?_firstTop (ms : List Marked) (p : Token → Bool) :
    slice? (tokensOf ms) 0 ((firstTop (tokensOf ms) (marksOf ms) p).getD (tokensOf ms).length) =
      some (tokensOf (ms.takeWhile fun m => !(m.isTop && p m.token))) := by
  rw [firstTop_eq, length_tokensOf, tokensOf, slice?_map, slice?_findIdx?]
  rfl

/-! ## Segments -/

/-- The ends of the segments between the commas outside all brackets, in tokens that begin at `i`, the first
segment at `start`. -/
def segmentsFrom? (marks : List Bool) (start i : Nat) : List Token → Option (List (Nat × Nat))
  | [] => some [(start, i)]
  | t :: rest =>
    match marks[i]? with
    | none => none
    | some isTop =>
      if isTop && t.isMark "," then
        (segmentsFrom? marks (i + 1) (i + 1) rest).map ((start, i) :: ·)
      else segmentsFrom? marks start (i + 1) rest

def segmentsAt? (ts : List Token) (marks : List Bool) : Option (List (Nat × Nat)) :=
  segmentsFrom? marks 0 0 ts

/-- The ends are those of slices that are in range, and the slices are the segments. -/
def AreSegments (ms : List Marked) (ranges : List (Nat × Nat)) (segments : List (List Marked)) : Prop :=
  List.Forall₂ (fun range segment => slice? ms range.1 range.2 = some segment) ranges segments

/-- From behind what is gathered of the first segment: it goes on to the next comma. -/
theorem exists_segmentsFrom? (front gathered ms : List Marked) :
    ∃ ranges, segmentsFrom? (marksOf (front ++ (gathered ++ ms))) front.length
        (front.length + gathered.length) (tokensOf ms) = some ranges ∧
      AreSegments (front ++ (gathered ++ ms)) ranges ((splitCommas ms).modifyHead (gathered ++ ·)) := by
  induction ms generalizing front gathered with
  | nil =>
      refine ⟨_, rfl, .cons ?_ .nil⟩
      simpa using slice?_append front gathered []
  | cons m ms ih =>
      have hmark : (marksOf (front ++ (gathered ++ m :: ms)))[front.length + gathered.length]? = some m.isTop := by
        simp [marksOf]
      simp only [tokensOf, List.map_cons, segmentsFrom?, hmark, splitCommas, Marked.isTopMark]
      by_cases hcomma : (m.isTop && m.token.isMark ",") = true
      · simp only [hcomma, if_true]
        obtain ⟨ranges, hranges, hsegments⟩ := ih (front ++ gathered ++ [m]) []
        simp only [List.length_append, List.length_singleton, List.length_nil, Nat.add_zero, List.append_assoc,
          List.nil_append, List.singleton_append] at hranges hsegments
        refine ⟨_, congrArg _ hranges, .cons ?_ ?_⟩
        · simpa using slice?_append front gathered (m :: ms)
        have hid : (splitCommas ms).modifyHead (fun segment => segment) = splitCommas ms := by
          cases splitCommas ms <;> rfl
        rwa [hid] at hsegments
      · rw [Bool.not_eq_true] at hcomma
        simp only [hcomma, Bool.false_eq_true, if_false]
        obtain ⟨ranges, hranges, hsegments⟩ := ih front (gathered ++ [m])
        simp only [List.length_append, List.length_singleton, List.append_assoc, List.singleton_append]
          at hranges hsegments
        refine ⟨ranges, hranges, ?_⟩
        cases hcommas : splitCommas ms with
        | nil => exact absurd hcommas (splitCommas_ne_nil ms)
        | cons segment segments => simpa [hcommas] using hsegments

theorem exists_segmentsAt? (ms : List Marked) :
    ∃ ranges, segmentsAt? (tokensOf ms) (marksOf ms) = some ranges ∧ AreSegments ms ranges (splitCommas ms) := by
  obtain ⟨ranges, hranges, hsegments⟩ := exists_segmentsFrom? [] [] ms
  have hid : (splitCommas ms).modifyHead ([] ++ ·) = splitCommas ms := by
    cases splitCommas ms <;> rfl
  rw [hid] at hsegments
  exact ⟨ranges, hranges, hsegments⟩

end NameLint.Declaration
