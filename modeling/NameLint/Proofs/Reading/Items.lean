import NameLint.Proofs.Reading.Run

/-!
# Names one at a time

A search hands out the names of a text one by one and reads only as many tokens as the next one needs. It
yields the names that are extracted at once, and after them the error, if there is one, as its last item.
-/

namespace NameLint.Declaration

open NameLint.Source

/-- What a search hands out. -/
abbrev Item := Except ExtractError Occurrence

/-- A search that goes on when it is asked for the next item. -/
structure Search where
  /-- The tokens that are not read yet. -/
  rest : List Token
  reading : Reading := {}
  /-- Names that are known and not handed out yet. -/
  pending : List Occurrence := []
  finished : Bool := false

namespace Search

/-- The search in a text before its first item. -/
def start (text : String) : Search := { rest := tokens text }

/-- Reads tokens until one makes a name known or is refused. -/
def readOn (limit : Nat) (r : Reading) : List Token → Option (Item × Search)
  | [] => none
  | t :: rest =>
    match r.step limit t with
    | .error e => some (.error e, { rest, reading := r, finished := true })
    | .ok (s, []) => readOn limit s rest
    | .ok (s, first :: later) => some (.ok first, { rest, reading := s, pending := later })

/-- The next item and the search after it. -/
def next? (limit : Nat) (s : Search) : Option (Item × Search) :=
  match s.pending with
  | first :: later => some (.ok first, { s with pending := later })
  | [] => if s.finished then none else readOn limit s.reading s.rest

/-- `s.Yields limit items`: asked again and again, the search hands out `items` and nothing after them. -/
inductive Yields (limit : Nat) : Search → List Item → Prop
  | done {s : Search} (h : s.next? limit = none) : Yields limit s []
  | item {s u : Search} {first : Item} {later : List Item} (h : s.next? limit = some (first, u))
      (rest : Yields limit u later) : Yields limit s (first :: later)

variable {limit : Nat} {s u : Search} {items others : List Item}

theorem Yields.unique (h : Yields limit s items) (h' : Yields limit s others) : items = others := by
  induction h generalizing others with
  | done h =>
      cases h' with
      | done => rfl
      | item h' => simp [h] at h'
  | item h _ ih =>
      cases h' with
      | done h' => simp [h] at h'
      | item h' rest =>
          rw [h] at h'
          cases h'
          rw [ih rest]

theorem Yields.of_next?_eq (he : s.next? limit = u.next? limit) (h : Yields limit u items) :
    Yields limit s items := by
  cases h with
  | done h => exact .done (he.trans h)
  | item h rest => exact .item (he.trans h) rest

theorem Yields.pending {rest : List Token} {r : Reading} {finished : Bool} {known : List Occurrence}
    (h : Yields limit ⟨rest, r, [], finished⟩ items) :
    Yields limit ⟨rest, r, known, finished⟩ (known.map .ok ++ items) := by
  induction known with
  | nil => exact h
  | cons first known ih => exact .item rfl ih

theorem next?_of_step {r v : Reading} {t : Token} {ts : List Token} {found : List Occurrence}
    (h : r.step limit t = .ok (v, found)) :
    next? limit ⟨t :: ts, r, [], false⟩ = next? limit ⟨ts, v, found, false⟩ := by
  cases found <;> simp [next?, readOn, h]

end Search

/-- The names of an extraction, and its error after them. -/
def Extraction.items (x : Extraction) : List Item := x.found.map .ok ++ x.failed.toList.map .error

theorem Search.yields_extractFrom (limit : Nat) (r : Reading) (ts : List Token) :
    Yields limit ⟨ts, r, [], false⟩ (extractFrom limit r ts).items := by
  induction ts generalizing r with
  | nil => exact .done rfl
  | cons t ts ih =>
      cases hstep : r.step limit t with
      | error e =>
          rw [show extractFrom limit r (t :: ts) = ⟨[], some e⟩ by simp [extractFrom, hstep]]
          exact .item (by simp [next?, readOn, hstep]; rfl) (.done rfl)
      | ok p =>
          obtain ⟨s, found⟩ := p
          rw [(Reading.Step.of_step_eq hstep).extractFrom_cons]
          refine .of_next?_eq (next?_of_step hstep) ?_
          have hpending : Yields limit ⟨ts, s, found, false⟩ _ := (ih s).pending
          simpa [Extraction.items, Reading.after] using hpending

/-- A search yields the names of the text and then the error, which is the only one and the last item. -/
theorem Search.yields_start_iff {limit : Nat} {text : String} {items : List Item} :
    (start text).Yields limit items ↔ items = (extract text limit).items :=
  ⟨fun h => h.unique (yields_extractFrom limit {} _), fun h => h ▸ yields_extractFrom limit {} _⟩

end NameLint.Declaration
