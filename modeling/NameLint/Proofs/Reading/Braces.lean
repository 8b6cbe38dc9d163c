import NameLint.Proofs.Reading.Depth

/-!
# What a pair of braces leaves behind

Whatever balanced tokens stand between two braces, after them the scopes are the ones before them, and the
statement is decided by what stood before the opening brace. In a body that is not looked at no name is
found, so its tokens may be exchanged.
-/

namespace NameLint.Declaration

open NameLint.Source

/-- Where `n` scopes are open, some tokens close no others. -/
def ClosesWithin (n : Nat) (ts : List Token) : Prop :=
  ∀ j ≤ ts.length, 0 ≤ n + braceDepth (ts.take j)

instance (n : Nat) (ts : List Token) : Decidable (ClosesWithin n ts) :=
  inferInstanceAs (Decidable (∀ j ≤ ts.length, _))

theorem ClosesWithin.head {n : Nat} {t : Token} {ts : List Token} (h : ClosesWithin n (t :: ts))
    (brace : t.closesBrace = true) : n ≠ 0 := by
  have hfirst := h 1 (by simp)
  simp only [List.take_succ_cons, List.take_zero, braceDepth_closesBrace brace] at hfirst
  omega

theorem ClosesWithin.tail {n m : Nat} {t : Token} {ts : List Token} (h : ClosesWithin n (t :: ts))
    (hm : (m : Int) = n + braceDepth [t]) : ClosesWithin m ts := by
  intro j hj
  have hnext := h (j + 1) (by simpa using hj)
  rw [List.take_succ_cons, braceDepth_cons] at hnext
  omega

/-- The braces of some tokens are balanced: none closes a scope that was open before, and all that are
opened are closed. -/
def Balanced (ts : List Token) : Prop := ClosesWithin 0 ts ∧ braceDepth ts = 0

instance (ts : List Token) : Decidable (Balanced ts) :=
  inferInstanceAs (Decidable (_ ∧ _))

namespace Reading

/-- The limit allows some tokens between two braces. -/
def HasRoom (limit : Nat) (r : Reading) (ts : List Token) : Prop :=
  ∀ j ≤ ts.length, r.scopes.length + 1 + braceDepth (ts.take j) ≤ limit

instance (limit : Nat) (r : Reading) (ts : List Token) : Decidable (r.HasRoom limit ts) :=
  inferInstanceAs (Decidable (∀ j ≤ ts.length, _))

/-- The statement after a pair of braces. -/
def statementAfterBraces (r : Reading) (closing : Token) : List Token :=
  if r.scopes.isHidden then r.statement
  else match classifyOpen r.statement r.scopes.site with
    | .initializer => r.statement ++ [{ closing with kind := .group }]
    | .record _ _ | .enumeration _ => r.statement ++ [{ closing with kind := .body }]
    | .namespaceBody | .function _ | .block => []

/-- Whether nothing is looked at in the body that the next opening brace opens. -/
def hidesBody (r : Reading) : Bool :=
  match r.opening with
  | .initializer | .function _ | .block | .enumeration _ => true
  | .record _ _ | .namespaceBody => false

end Reading

/-! ## The scopes below the innermost ones -/

/-- A frame as it was before any label in it. -/
def Frame.unlabelled (frame : Frame) : Frame :=
  match frame.kind with
  | .recordBody kind name _ => ⟨.recordBody kind name kind.defaultAccess, frame.declaration⟩
  | _ => frame

theorem Scopes.setAccess_cons (frame : Frame) (outer : Scopes) (access : Access) :
    ∃ frame' : Frame, (setAccess (frame :: outer) access = frame' :: outer) ∧
      frame'.unlabelled = frame.unlabelled := by
  obtain ⟨kind, declaration⟩ := frame
  cases kind <;> exact ⟨_, rfl, rfl⟩

namespace Reading

variable {limit : Nat} {r s : Reading} {t : Token} {ts : List Token} {found : List Occurrence}
  {inner base : List Frame} {frame : Frame}

theorem closedStatement_eq_of_unlabelled_eq {frame' : Frame} {outer : Scopes}
    (h : frame'.unlabelled = frame.unlabelled) :
    r.closedStatement frame' outer t = r.closedStatement frame outer t := by
  obtain ⟨kind, declaration⟩ := frame
  obtain ⟨kind', declaration'⟩ := frame'
  unfold closedStatement
  split
  · rfl
  · cases kind <;> cases kind' <;> simp_all [Frame.unlabelled]

theorem Step.scopes_append (h : Step limit r t s found) (hr : r.scopes = inner ++ frame :: base)
    (stays : t.closesBrace = true → inner.length ≠ 0) :
    ∃ inner' frame', s.scopes = inner' ++ frame' :: base ∧
      frame'.unlabelled = frame.unlabelled := by
  cases h with
  | opens brace room => exact ⟨r.openedFrame :: inner, frame, by rw [hr]; rfl, rfl⟩
  | closes brace open_ =>
      cases inner with
      | nil => exact absurd rfl (stays brace)
      | cons first inner =>
          rw [hr, List.cons_append, List.cons.injEq] at open_
          exact ⟨inner, frame, open_.2.symm, rfl⟩
  | passes ho hc hidden => exact ⟨inner, frame, hr, rfl⟩
  | ends semicolon visible => exact ⟨inner, frame, hr, rfl⟩
  | labels colon visible label =>
      rcases (endLabel?_scopes label).2 with h | ⟨access, h⟩
      · exact ⟨inner, frame, h.trans hr, rfl⟩
      rw [hr] at h
      cases inner with
      | nil =>
          obtain ⟨frame', hset, hsame⟩ := Scopes.setAccess_cons frame base access
          exact ⟨[], frame', h.trans hset, hsame⟩
      | cons first inner =>
          obtain ⟨first', hset, -⟩ := Scopes.setAccess_cons first (inner ++ frame :: base) access
          exact ⟨first' :: inner, frame, h.trans hset, rfl⟩
  | continues ho hc visible notEnd notLabel => exact ⟨inner, frame, hr, rfl⟩

/-- The scopes outside of an open one stay as they are while it is open. -/
theorem run_scopes_append (h : r.run limit ts = .ok (s, found)) (hr : r.scopes = inner ++ frame :: base)
    (stays : ClosesWithin inner.length ts) :
    ∃ inner' frame', s.scopes = inner' ++ frame' :: base ∧
      frame'.unlabelled = frame.unlabelled := by
  induction ts generalizing r found inner frame with
  | nil =>
      cases h
      exact ⟨inner, frame, hr, rfl⟩
  | cons t ts ih =>
      obtain ⟨m, first, later, hstep, hrun, rfl⟩ := run_cons_eq_ok_iff.mp h
      -- The scopes inside change with every brace, and a label may change `frame` itself.
      obtain ⟨inner', frame', hm, hsame⟩ := hstep.scopes_append hr stays.head
      have hlength := hstep.length_scopes
      simp only [hr, hm, List.length_append, List.length_cons] at hlength
      obtain ⟨inner'', frame'', hs, hsame'⟩ := ih hrun hm (stays.tail (by omega))
      exact ⟨inner'', frame'', hs, hsame'.trans hsame⟩

theorem run_balanced (h : r.run limit ts = .ok (s, found)) (hr : r.scopes = frame :: base)
    (balanced : Balanced ts) :
    ∃ frame', s.scopes = frame' :: base ∧ frame'.unlabelled = frame.unlabelled := by
  have hinner : ClosesWithin ([] : Scopes).length ts := balanced.1
  obtain ⟨inner, frame', hs, hsame⟩ := run_scopes_append h hr hinner
  have hlength := run_length_scopes h
  simp only [hr, hs, balanced.2, List.length_append, List.length_cons] at hlength
  obtain rfl : inner = [] := List.eq_nil_of_length_eq_zero (by omega)
  exact ⟨frame', hs, hsame⟩

/-! ## Bodies that are not looked at -/

theorem isHidden_append (hinner : ∀ f ∈ inner, f.kind.isHidden = true)
    (hframe : frame.kind.isHidden = true) : Scopes.isHidden (inner ++ frame :: base) = true := by
  cases inner with
  | nil => exact hframe
  | cons first inner => exact hinner first (by simp)

theorem Step.of_hidden (h : Step limit r t s found) (hr : r.scopes = inner ++ frame :: base)
    (hinner : ∀ f ∈ inner, f.kind.isHidden = true) (hframe : frame.kind.isHidden = true)
    (stays : t.closesBrace = true → inner.length ≠ 0) :
    found = [] ∧ s.statement = r.statement ∧
      ∃ inner', s.scopes = inner' ++ frame :: base ∧ ∀ f ∈ inner', f.kind.isHidden = true := by
  have hidden : r.scopes.isHidden = true := hr ▸ isHidden_append hinner hframe
  cases h with
  | opens brace room =>
      have hopening : r.opening = .block := by simp [opening, hidden]
      refine ⟨by simp [openedName?, hopening], by simp [openedStatement, hidden],
        r.openedFrame :: inner, by rw [hr]; rfl, ?_⟩
      simpa [openedFrame, hopening, ScopeKind.isHidden] using hinner
  | closes brace open_ =>
      cases inner with
      | nil => exact absurd rfl (stays brace)
      | cons first inner =>
          rw [hr, List.cons_append, List.cons.injEq] at open_
          obtain ⟨rfl, rfl⟩ := open_
          have hinner' : ∀ f ∈ inner, f.kind.isHidden = true := fun f hf => hinner f (by simp [hf])
          exact ⟨rfl, by simp [closedStatement, isHidden_append hinner' hframe], inner, rfl, hinner'⟩
  | passes ho hc hidden => exact ⟨rfl, rfl, inner, hr, hinner⟩
  | ends semicolon visible => simp [hidden] at visible
  | labels colon visible label => simp [hidden] at visible
  | continues ho hc visible notEnd notLabel => simp [hidden] at visible

theorem run_of_hidden (h : r.run limit ts = .ok (s, found)) (hr : r.scopes = inner ++ frame :: base)
    (hinner : ∀ f ∈ inner, f.kind.isHidden = true) (hframe : frame.kind.isHidden = true)
    (stays : ClosesWithin inner.length ts) :
    found = [] ∧ s.statement = r.statement := by
  induction ts generalizing r found inner with
  | nil =>
      cases h
      exact ⟨rfl, rfl⟩
  | cons t ts ih =>
      obtain ⟨m, first, later, hstep, hrun, rfl⟩ := run_cons_eq_ok_iff.mp h
      obtain ⟨rfl, hstatement, inner', hm, hinner'⟩ := hstep.of_hidden hr hinner hframe stays.head
      have hlength := hstep.length_scopes
      simp only [hr, hm, List.length_append, List.length_cons] at hlength
      obtain ⟨rfl, hlast⟩ := ih hrun hm hinner' (stays.tail (by omega))
      exact ⟨rfl, hlast.trans hstatement⟩

/-! ## From one brace to the other -/

theorem isHidden_openedFrame (r : Reading) : r.openedFrame.kind.isHidden = r.hidesBody := by
  unfold openedFrame hidesBody
  cases r.opening <;> rfl

/-- Closing the scope that was opened leads to the statement after the pair, if a body that is not looked
at has left the statement alone. -/
theorem closedStatement_openedFrame (r s : Reading) (closing : Token)
    (h : r.hidesBody = true → s.statement = r.openedStatement) :
    s.closedStatement r.openedFrame r.scopes closing = r.statementAfterBraces closing := by
  cases hidden : r.scopes.isHidden with
  | true =>
      have hopening : r.opening = .block := by simp [opening, hidden]
      have hs := h (by simp [hidesBody, hopening])
      simp [closedStatement, statementAfterBraces, hidden, hs, openedStatement]
  | false =>
      have hopening : r.opening = classifyOpen r.statement r.scopes.site := by simp [opening, hidden]
      simp only [closedStatement, statementAfterBraces, hidden, ← hopening, openedFrame]
      cases hcase : r.opening with
      | initializer =>
          have hs := h (by simp [hidesBody, hcase])
          simp [hs, openedStatement, hidden, hcase]
      | _ => rfl

theorem run_pair (opens : t.opensBrace = true) {closing : Token}
    (closes : closing.closesBrace = true) (balanced : Balanced ts) (room : r.HasRoom limit ts) :
    ∃ found, r.run limit (t :: ts ++ [closing]) =
        .ok (⟨r.scopes, r.statementAfterBraces closing⟩, r.openedName?.toList ++ found) ∧
      (r.hidesBody = true → found = []) := by
  have hopen : Step limit r t ⟨r.openedFrame :: r.scopes, r.openedStatement⟩ r.openedName?.toList :=
    .opens opens (by have := room 0 (Nat.zero_le _); simp at this; omega)
  obtain ⟨s, found, hrun⟩ : ∃ s found,
      run limit ⟨r.openedFrame :: r.scopes, r.openedStatement⟩ ts = .ok (s, found) :=
    run_of_depth fun j hj => by
      have hlow := balanced.1 j hj
      have hhigh := room j hj
      simp only [List.length_cons]
      omega
  obtain ⟨frame, hs, hsame⟩ := run_balanced hrun rfl balanced
  have hhidden : r.hidesBody = true → found = [] ∧ s.statement = r.openedStatement := fun h =>
    have hinner : ClosesWithin ([] : Scopes).length ts := balanced.1
    run_of_hidden hrun rfl (by simp) (r.isHidden_openedFrame.trans h) hinner
  have hclose : Step limit s closing ⟨r.scopes, r.statementAfterBraces closing⟩ [] := by
    rw [← closedStatement_openedFrame r s closing fun h => (hhidden h).2,
      ← closedStatement_eq_of_unlabelled_eq hsame]
    exact .closes closes hs
  refine ⟨found, ?_, fun h => (hhidden h).1⟩
  have hrest := run_append hrun hclose.run_singleton
  rw [List.append_nil] at hrest
  exact hopen.run_cons hrest

/-- Tokens that are read behind an opening brace stay within the limit. -/
theorem HasRoom.of_run {us : List Token} (opens : t.opensBrace = true)
    (h : r.run limit (t :: (ts ++ us)) = .ok (s, found)) : r.HasRoom limit ts := by
  obtain ⟨m, first, later, hstep, hrun, -⟩ := run_cons_eq_ok_iff.mp h
  have hlength := hstep.length_scopes
  rw [braceDepth_opensBrace opens] at hlength
  have hm : m.scopes.length ≤ limit := by
    rw [step_eq_ok_iff.symm, step_opensBrace opens] at hstep
    split at hstep
    · cases hstep
    · cases hstep
      rename_i room
      exact Nat.not_le.mp room
  intro j hj
  have hsplit : ts ++ us = ts.take j ++ (ts.drop j ++ us) := by
    rw [← List.append_assoc, List.take_append_drop]
  rw [hsplit] at hrun
  obtain ⟨u, found', later', hrun', -, -⟩ := run_append_eq_ok hrun
  have hu := run_length_scopes hrun'
  have hle := run_length_scopes_le hrun' hm
  omega

end Reading

open Reading

/-- A pair of braces around balanced tokens restores all scopes, and the statement after it is decided by
what stood before it. No name is found in a body that is not looked at, so that other balanced tokens in
its place change nothing in what is extracted. -/
theorem run_braces {limit : Nat} (r : Reading) {opening closing : Token} {body : List Token}
    (opens : opening.opensBrace = true) (closes : closing.closesBrace = true)
    (balanced : Balanced body) (room : r.HasRoom limit body) :
    (∃ found, r.run limit (opening :: body ++ [closing]) =
        .ok (⟨r.scopes, r.statementAfterBraces closing⟩, r.openedName?.toList ++ found) ∧
      (r.hidesBody = true → found = [])) ∧
    (r.hidesBody = true → ∀ other, Balanced other → r.HasRoom limit other → ∀ rest,
      extractFrom limit r (opening :: other ++ closing :: rest) =
        extractFrom limit r (opening :: body ++ closing :: rest)) := by
  have hbody := run_pair opens closes balanced room
  refine ⟨hbody, fun hides other balanced' room' rest => ?_⟩
  obtain ⟨found, hrun, hnone⟩ := hbody
  obtain ⟨found', hrun', hnone'⟩ := run_pair opens closes balanced' room'
  have hsplit : ∀ ts : List Token,
      opening :: ts ++ closing :: rest = (opening :: ts ++ [closing]) ++ rest := by simp
  rw [hsplit, hsplit, extractFrom_append hrun, extractFrom_append hrun', hnone hides, hnone' hides]

/-- After `struct A`, the braces of its body around a nested pair. -/
theorem run_braces_record :
    (Token.mk .mark "\x7b" ⟨1, 10⟩).opensBrace = true ∧
    (Token.mk .mark "\x7d" ⟨1, 16⟩).closesBrace = true ∧
    Balanced [⟨.mark, "\x7b", ⟨1, 12⟩⟩, ⟨.mark, "\x7d", ⟨1, 14⟩⟩] ∧
    HasRoom 2 ⟨[], [⟨.word, "struct", ⟨1, 1⟩⟩, ⟨.word, "A", ⟨1, 8⟩⟩]⟩
      [⟨.mark, "\x7b", ⟨1, 12⟩⟩, ⟨.mark, "\x7d", ⟨1, 14⟩⟩] ∧
    ∃ found, run 2 ⟨[], [⟨.word, "struct", ⟨1, 1⟩⟩, ⟨.word, "A", ⟨1, 8⟩⟩]⟩
        [⟨.mark, "\x7b", ⟨1, 10⟩⟩, ⟨.mark, "\x7b", ⟨1, 12⟩⟩, ⟨.mark, "\x7d", ⟨1, 14⟩⟩,
          ⟨.mark, "\x7d", ⟨1, 16⟩⟩] =
      .ok (⟨[], statementAfterBraces ⟨[], [⟨.word, "struct", ⟨1, 1⟩⟩, ⟨.word, "A", ⟨1, 8⟩⟩]⟩
          ⟨.mark, "\x7d", ⟨1, 16⟩⟩⟩,
        (openedName? ⟨[], [⟨.word, "struct", ⟨1, 1⟩⟩, ⟨.word, "A", ⟨1, 8⟩⟩]⟩).toList ++ found) := by
  have opens : (Token.mk .mark "\x7b" ⟨1, 10⟩).opensBrace = true := by decide
  have closes : (Token.mk .mark "\x7d" ⟨1, 16⟩).closesBrace = true := by decide
  have balanced : Balanced [⟨.mark, "\x7b", ⟨1, 12⟩⟩, ⟨.mark, "\x7d", ⟨1, 14⟩⟩] := by decide
  have room : HasRoom 2 ⟨[], [⟨.word, "struct", ⟨1, 1⟩⟩, ⟨.word, "A", ⟨1, 8⟩⟩]⟩
      [⟨.mark, "\x7b", ⟨1, 12⟩⟩, ⟨.mark, "\x7d", ⟨1, 14⟩⟩] := by decide
  obtain ⟨found, hrun, -⟩ := (run_braces _ opens closes balanced room).1
  exact ⟨opens, closes, balanced, room, found, hrun⟩

end NameLint.Declaration
