import NameLint.Proofs.Statement.Brackets

/-!
# Attributes put into a statement

What is dropped from a statement are whole groups: attributes and template headers, up to the mark that closes
them. Putting in another one, where none of these is cut apart, changes neither what a brace behind the statement
opens nor what the statement declares.
-/

namespace NameLint.Declaration

open NameLint.Source

variable {o c : String} {ts us inner group before after : List Token} {t opening closing : Token} {depth : Nat}

/-! ## Closed marks -/

/-- Whether marks of one kind are closed behind `depth` open ones: none closes more than are open, and in the
end none is open. -/
def closesMarks (opening closing : String) : Nat → List Token → Bool
  | depth, [] => depth = 0
  | depth, t :: ts =>
    if t.isMark opening then closesMarks opening closing (depth + 1) ts
    else if t.isMark closing then depth ≠ 0 && closesMarks opening closing (depth - 1) ts
    else closesMarks opening closing depth ts

theorem splitGroup_cons_opening (depth : Nat) (ho : t.isMark o = true) (ts : List Token) :
    splitGroup o c depth (t :: ts) =
      (t :: (splitGroup o c (depth + 1) ts).1, (splitGroup o c (depth + 1) ts).2) := by
  rw [splitGroup, if_pos ho]

/-- A group ends with the mark behind what is closed by itself. -/
theorem splitGroup_of_closesMarks (h : closesMarks o c depth inner = true) (ho : closing.isMark o = false)
    (hc : closing.isMark c = true) (ts : List Token) :
    splitGroup o c (depth + 1) (inner ++ closing :: ts) = (inner ++ [closing], ts) := by
  induction inner generalizing depth with
  | nil =>
      obtain rfl : depth = 0 := by simpa [closesMarks] using h
      simp [splitGroup, ho, hc]
  | cons t inner ih =>
      rw [closesMarks] at h
      rw [List.cons_append, splitGroup]
      split at h
      · rename_i hopen
        rw [if_pos hopen, ih h]
        rfl
      · rename_i hopen
        rw [if_neg hopen]
        split at h
        · rename_i hclose
          rw [Bool.and_eq_true, decide_eq_true_eq] at h
          obtain ⟨outer, rfl⟩ := Nat.exists_eq_succ_of_ne_zero h.1
          rw [if_pos hclose, if_neg (by omega)]
          rw [Nat.succ_sub_one] at h
          rw [Nat.add_sub_cancel, ih h.2]
          rfl
        · rename_i hclose
          rw [if_neg hclose, ih h]
          rfl

theorem countP_of_closesMarks (hne : o ≠ c) (h : closesMarks o c depth ts = true) :
    ts.countP (·.isMark c) = ts.countP (·.isMark o) + depth := by
  induction ts generalizing depth with
  | nil =>
      obtain rfl : depth = 0 := by simpa [closesMarks] using h
      rfl
  | cons t ts ih =>
      rw [closesMarks] at h
      rw [List.countP_cons, List.countP_cons]
      split at h
      · rename_i hopen
        simp only [hopen, Token.not_isMark hopen hne, ih h, if_true]
        simp only [Bool.false_eq_true, if_false]
        omega
      · rename_i hopen
        split at h
        · rename_i hclose
          rw [Bool.and_eq_true, decide_eq_true_eq] at h
          simp only [hopen, hclose, ih h.2, if_true]
          simp only [Bool.false_eq_true, if_false]
          omega
        · rename_i hclose
          simp only [hopen, hclose, ih h]
          simp only [Bool.false_eq_true, if_false]
          omega

theorem bracketBalance_eq_countP (ts : List Token) :
    bracketBalance ts = (ts.countP (·.isMark "(") : Int) + ts.countP (·.isMark "[") -
      ts.countP (·.isMark ")") - ts.countP (·.isMark "]") := by
  induction ts using List.reverseRecOn with
  | nil => rfl
  | append_singleton ts t ih =>
      rw [bracketBalance, List.foldl_append, List.foldl_cons, List.foldl_nil, ← bracketBalance, ih]
      simp only [List.countP_append, List.countP_singleton, Bool.or_eq_true]
      split
      case isTrue hopen =>
        rcases hopen with hopen | hopen <;>
          simp only [hopen, Token.not_isMark hopen, ne_eq, String.reduceEq, not_false_eq_true, if_true,
            Bool.false_eq_true, if_false] <;> omega
      case isFalse hopen =>
        simp only [not_or] at hopen
        simp only [hopen]
        split
        case isTrue hclose =>
          rcases hclose with hclose | hclose <;>
            simp only [hclose, Token.not_isMark hclose, ne_eq, String.reduceEq, not_false_eq_true, if_true,
              Bool.false_eq_true, if_false] <;> omega
        case isFalse hclose =>
          simp only [not_or] at hclose
          simp only [hclose]
          omega

/-! ## Attributes -/

theorem normalize_cons (h : ∀ next ∈ ts.head?, beginsDropped t next = false) :
    normalize (t :: ts) = t :: normalize ts := by
  cases ts with
  | nil => simp [normalize]
  | cons next rest =>
      have hnext := h next rfl
      simp only [beginsDropped, Bool.or_eq_false_iff] at hnext
      rw [normalize, hnext.1.1, hnext.1.2, hnext.2]
      rfl

/-- `IsAttribute inner group`: the group is an attribute or a template header, and `inner` stands between its
brackets. -/
inductive IsAttribute : List Token → List Token → Prop
  /-- As in `[[nodiscard]]`: what stands in the brackets begins with another one. -/
  | square {opening closing : Token} {inner : List Token} (opens : opening.isMark "[" = true)
      (double : inner.head?.any (·.isMark "[") = true) (closed : closesMarks "[" "]" 0 inner = true)
      (closes : closing.isMark "]" = true) : IsAttribute inner (opening :: inner ++ [closing])
  /-- As in `alignas(8)`. -/
  | word {word opening closing : Token} {inner : List Token} (takes : isAttributeWord word = true)
      (opens : opening.isMark "(" = true) (closed : closesMarks "(" ")" 0 inner = true)
      (closes : closing.isMark ")" = true) : IsAttribute inner (word :: opening :: inner ++ [closing])
  /-- As in `template <class T>`. -/
  | header {word opening closing : Token} {inner : List Token} (template : word.isWord "template" = true)
      (opens : opening.isMark "<" = true) (closed : closesMarks "<" ">" 0 inner = true)
      (closes : closing.isMark ">" = true) : IsAttribute inner (word :: opening :: inner ++ [closing])

theorem isMark_of_word {text : String} (h : t.kind = .word) : t.isMark text = false := by
  simp [Token.isMark, h]

namespace IsAttribute

theorem normalize_append (h : IsAttribute inner group) (ts : List Token) :
    normalize (group ++ ts) = normalize ts := by
  cases h with
  | @square opening closing inner opens double closed closes =>
      cases inner with
      | nil => simp at double
      | cons first inner =>
          have hsplit := splitGroup_of_closesMarks closed (Token.not_isMark closes (by decide)) closes ts
          rw [List.append_assoc, List.cons_append, List.cons_append, List.singleton_append]
          rw [List.cons_append] at hsplit
          rw [normalize, if_pos (by simpa [opens] using double), hsplit]
  | @word word opening closing inner takes opens closed closes =>
      have hsplit := splitGroup_of_closesMarks closed (Token.not_isMark closes (by decide)) closes ts
      rw [List.append_assoc, List.cons_append, List.cons_append, List.singleton_append, normalize,
        if_neg (by simp [Token.not_isMark opens]), if_pos (by simp [takes, opens]), hsplit]
  | @header word opening closing inner template opens closed closes =>
      have hsplit := splitGroup_of_closesMarks closed (Token.not_isMark closes (by decide)) closes ts
      rw [List.append_assoc, List.cons_append, List.cons_append, List.singleton_append, normalize,
        if_neg (by simp [Token.not_isMark opens]), if_neg (by simp [Token.not_isMark opens]),
        if_pos (by simp [template, opens]), hsplit]

/-- Only an opening square bracket takes along an attribute behind it. -/
theorem beginsDropped_head (h : IsAttribute inner group) (ht : t.isMark "[" = false) :
    ∀ next ∈ group.head?, beginsDropped t next = false := by
  intro next hnext
  cases h with
  | square opens double closed closes =>
      cases hnext
      simp [beginsDropped, ht, Token.not_isMark opens]
  | word takes opens closed closes =>
      cases hnext
      simp only [isAttributeWord, Bool.and_eq_true, decide_eq_true_eq] at takes
      simp [beginsDropped, Token.isMark, takes.1]
  | header template opens closed closes =>
      cases hnext
      simp only [Token.isWord, Bool.and_eq_true, decide_eq_true_eq] at template
      simp [beginsDropped, Token.isMark, template.1]

theorem ne_nil (h : IsAttribute inner group) : group ≠ [] := by
  cases h <;> exact List.cons_ne_nil _ _

/-- Closed brackets in it leave the balance as it is. -/
theorem bracketBalance_eq_zero (h : IsAttribute inner group) (hround : closesMarks "(" ")" 0 inner = true)
    (hsquare : closesMarks "[" "]" 0 inner = true) : bracketBalance group = 0 := by
  have hround := countP_of_closesMarks (by decide) hround
  have hsquare := countP_of_closesMarks (by decide) hsquare
  rw [bracketBalance_eq_countP]
  cases h with
  | square opens double closed closes =>
      simp only [List.countP_append, List.countP_cons, List.countP_nil, opens, closes, Token.not_isMark opens,
        Token.not_isMark closes, ne_eq, String.reduceEq, not_false_eq_true]
      omega
  | word takes opens closed closes =>
      simp only [isAttributeWord, Bool.and_eq_true, decide_eq_true_eq] at takes
      have hword : ∀ text, Token.isMark _ text = false := fun _ => isMark_of_word takes.1
      simp only [List.countP_append, List.countP_cons, List.countP_nil, hword, opens, closes,
        Token.not_isMark opens, Token.not_isMark closes, ne_eq, String.reduceEq, not_false_eq_true]
      omega
  | header template opens closed closes =>
      simp only [Token.isWord, Bool.and_eq_true, decide_eq_true_eq] at template
      have hword : ∀ text, Token.isMark _ text = false := fun _ => isMark_of_word template.1
      simp only [List.countP_append, List.countP_cons, List.countP_nil, hword,
        Token.not_isMark opens, Token.not_isMark closes, ne_eq, String.reduceEq, not_false_eq_true]
      omega

end IsAttribute

/-! ## Places between attributes -/

/-- The place between `before` and `after` lies neither in an attribute or template header nor across the
beginning of one: in front of it stand tokens that begin none, and whole ones. One that is never closed reaches
to the end of the statement. -/
inductive OutsideAttributes : List Token → List Token → Prop
  | start {after : List Token} : OutsideAttributes [] after
  | token {t : Token} {before after : List Token}
      (stays : ∀ next ∈ (before ++ after).head?, beginsDropped t next = false)
      (more : OutsideAttributes before after) : OutsideAttributes (t :: before) after
  | group {inner group before after : List Token} (whole : IsAttribute inner group)
      (more : OutsideAttributes before after) : OutsideAttributes (group ++ before) after

namespace OutsideAttributes

/-- At such a place a statement is normalized in two parts. -/
theorem normalize_append (h : OutsideAttributes before after) :
    normalize (before ++ after) = normalize before ++ normalize after := by
  induction h with
  | start => simp [normalize]
  | @token t before after stays more ih =>
      have hbefore : ∀ next ∈ before.head?, beginsDropped t next = false := by
        intro next hnext
        apply stays
        rw [List.head?_append, hnext]
        rfl
      rw [List.cons_append, normalize_cons stays, normalize_cons hbefore, ih, List.cons_append]
  | group whole more ih => rw [List.append_assoc, whole.normalize_append, whole.normalize_append, ih]

/-- What stands behind the place may change, unless it then belongs to the token in front of the place. -/
theorem congr_after {after' : List Token} (h : OutsideAttributes before after)
    (hafter : ∀ t ∈ before.getLast?, ∀ next ∈ after'.head?, beginsDropped t next = false) :
    OutsideAttributes before after' := by
  induction h with
  | start => exact .start
  | @token t before after stays more ih =>
      cases before with
      | nil => exact .token (hafter t rfl) .start
      | cons first before =>
          rw [List.getLast?_cons_cons] at hafter
          exact .token stays (ih hafter)
  | @group inner group before after whole more ih =>
      cases before with
      | nil => exact .group whole .start
      | cons first before =>
          rw [List.getLast?_append_of_ne_nil _ (List.cons_ne_nil _ _)] at hafter
          exact .group whole (ih hafter)

end OutsideAttributes

end NameLint.Declaration
