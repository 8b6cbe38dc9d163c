import Mathlib.Data.List.Induction
import NameLint.Proofs.Source.Between
import NameLint.Proofs.Source.Place

/-!
# Tokens and the text between them make up a text

A text is its tokens with text between them, and each token stands where the characters in front of it, counted
in lines and columns, put it.
-/

namespace NameLint.Source

/-- The place behind some text, counted: one more line than line feeds, and one more column than characters
since the last of them. -/
def Position.behind (before : List Char) : Position :=
  ⟨before.count '\n' + 1, (before.reverse.takeWhile (· != '\n')).length + 1⟩

/-- The place that is reached character by character is the place that is counted. -/
theorem Position.start_after (before : List Char) : start.after before = behind before := by
  induction before using List.reverseRecOn with
  | nil => rfl
  | append_singleton before c ih =>
      rw [after_append, ih, after_cons, after_nil]
      by_cases hc : c = '\n'
      · simp [advance, behind, hc]
      · simp [advance, behind, hc]

/-- Tokens tile the text that stands behind some other: there is text between tokens in front of each, and at
the end, and nothing else. -/
inductive Tiles : List Char → Bool → List Token → List Char → Prop
  | last {before gap : List Char} {lineStart : Bool} (trivia : Trivia true lineStart gap) :
      Tiles before lineStart [] gap
  | token {before gap rest : List Char} {lineStart : Bool} {t : Token} {ts : List Token}
      (trivia : Trivia false lineStart gap) (nonempty : t.text ≠ "")
      (place : t.place = .behind (before ++ gap))
      (next : Tiles (before ++ gap ++ t.text.toList) (t.text.toList.contains '\n') ts rest) :
      Tiles before lineStart (t :: ts) (gap ++ t.text.toList ++ rest)

theorem tokensFrom_tile (lineStart : Bool) (place : Position) (cs before : List Char)
    (hplace : place = .behind before) : Tiles before lineStart (tokensFrom lineStart place cs) cs := by
  induction lineStart, place, cs using tokensFrom_induction generalizing before with
  | none lineStart place cs h =>
      have hcs := splitTrivia_append (.between lineStart) cs
      have htrivia := splitTrivia_trivia lineStart cs
      rw [h, List.append_nil] at hcs
      rw [h, hcs] at htrivia
      rw [tokensFrom_eq_nil h]
      exact .last htrivia
  | token lineStart place cs c rest h ih =>
      have hcs := splitTrivia_append (.between lineStart) cs
      have htrivia := splitTrivia_trivia lineStart cs
      have htoken := splitToken_append c rest
      rw [h] at hcs htrivia
      rw [tokensFrom_eq_cons h]
      have hafter : ∀ more, place.after more = .behind (before ++ more) := fun more => by
        rw [hplace, ← Position.start_after, ← Position.start_after, Position.after_append]
      have hnext := ih (before ++ (splitTrivia (.between lineStart) cs).1 ++ (splitToken c rest).2.1)
        (by rw [← Position.after_append, hafter, List.append_assoc])
      have htext : cs = (splitTrivia (.between lineStart) cs).1 ++
          (String.ofList (splitToken c rest).2.1).toList ++ (splitToken c rest).2.2 := by
        rw [String.toList_ofList, List.append_assoc, htoken, hcs]
      have htiles := Tiles.token (t := ⟨(splitToken c rest).1, String.ofList (splitToken c rest).2.1,
        place.after (splitTrivia (.between lineStart) cs).1⟩) htrivia
        (by simpa using splitToken_ne_nil c rest) (hafter _) (by rwa [String.toList_ofList])
      rw [← htext] at htiles
      exact htiles

/-- The tokens of a text tile it: they are not empty and stand in it one behind the other, where they say, and
before, between and behind them there is nothing but blanks, comments and directives. -/
theorem tokens_tile (text : String) : Tiles [] true (tokens text) text.toList :=
  tokensFrom_tile true .start text.toList [] rfl

end NameLint.Source
