import NameLint.Proofs.Statement.Positions

/-!
# No position out of range

Statements are classified by position: one before a parenthesis, one past it, up to the matching one, slices
between commas of tokens and of their marks. Whatever the tokens are, balanced or not, no such position is out of
range, and what comes out is what the lists give.
-/

namespace NameLint.Declaration

open NameLint.Source

variable {ts : List Token} {ms front back : List Marked} {site : Site} {i : Nat}

/-! ## Functions -/

/-- The name in front of the parenthesis at a position, if it is to be reported. -/
def functionNameAt? (ts : List Token) (paren : Nat) (site : Site) : Option (Option Token) :=
  match paren.ppred.bind (ts[·]?) with
  | none => some none
  | some name =>
    if name.isName then do
      let before ← slice? ts 0 (← paren.ppred)
      let qualified := before.getLast?.any (isOneOf ["::", "~", ".", "->", ","])
      return if !qualified && hasType before && !isConstructor site name then some name else none
    else some none

theorem functionNameAt?_eq (before after : List Token) (site : Site) :
    functionNameAt? (before ++ after) before.length site = some (functionName? before site) := by
  cases before using List.reverseRecOn with
  | nil => rfl
  | append_singleton before name _ =>
      have hname : (before ++ name :: after)[before.length]? = some name := by simp
      simp only [functionNameAt?, functionName?, List.length_append, List.length_singleton, Nat.ppred_succ,
        Option.bind_some, List.append_assoc, List.singleton_append, hname, List.getLast?_concat,
        List.dropLast_concat]
      cases name.isName with
      | true => simp only [if_true, Option.bind_eq_bind, Option.bind_some, slice?_prefix, Bool.true_and]; rfl
      | false => rfl

/-- The position of the parenthesis that closes the one at a position, or the last position. -/
def matchingParen (ts : List Token) (paren : Nat) : Nat := skipGroup "(" ")" ts paren - 1

/-- What stands between the parentheses. -/
def insideAt? (ts : List Token) (paren : Nat) : Option (List Token) :=
  slice? ts (paren + 1) (max (matchingParen ts paren) (paren + 1))

theorem insideAt?_eq (before : List Token) (h : ts ≠ []) :
    insideAt? (before ++ ts) before.length = some (insideParentheses ts) := by
  have hgroup := splitGroup_append "(" ")" 0 ts
  rw [insideAt?, matchingParen, skipGroup_eq, insideParentheses]
  generalize hg : (splitGroup "(" ")" 0 ts).1 = group at *
  cases group with
  | nil => exact absurd hg (splitGroup_ne_nil "(" ")" 0 h)
  | cons paren group =>
      cases group using List.reverseRecOn with
      | nil =>
          -- The group ends with its parenthesis at the end of the tokens, and the slice is empty.
          have hslice := slice?_append (before ++ [paren]) [] (splitGroup "(" ")" 0 ts).2
          simp only [List.length_append, List.length_singleton, List.length_nil, List.append_assoc,
            List.nil_append] at hslice
          rw [← hgroup]
          simpa using hslice
      | append_singleton inner last _ =>
          have hslice := slice?_append (before ++ [paren]) inner (last :: (splitGroup "(" ")" 0 ts).2)
          simp only [List.length_append, List.length_singleton, List.append_assoc] at hslice
          have hstop : max (before.length + (paren :: (inner ++ [last])).length - 1) (before.length + 1) =
              before.length + 1 + inner.length := by
            simp only [List.length_cons, List.length_append, List.length_nil]
            omega
          rw [hstop, ← hgroup]
          simpa using hslice

def withoutDefaultAt? (entry : List Token) (marks : List Bool) : Option (List Token) :=
  match firstTop entry marks (·.isMark "=") with
  | none => some entry
  | some equals => slice? entry 0 equals

theorem withoutDefaultAt?_eq (entry : List Marked) :
    withoutDefaultAt? (tokensOf entry) (marksOf entry) = some (withoutDefault entry) := by
  have h := slice?_firstTop entry (·.isMark "=")
  rw [withoutDefaultAt?]
  cases hequals : firstTop (tokensOf entry) (marksOf entry) (·.isMark "=") with
  | none =>
      rw [hequals, Option.getD_none, slice?_take (Nat.le_refl _), List.take_length] at h
      exact h
  | some equals =>
      rw [hequals, Option.getD_some] at h
      exact h

/-- How the entries between positions read. -/
def shapeOf? (ts : List Token) (marks : List Bool) (shape : Shape) : List (Nat × Nat) → Option Shape
  | [] => some shape
  | (start, stop) :: ranges => do
    let entry ← slice? ts start stop
    let entryMarks ← slice? marks start stop
    match entryShape (← withoutDefaultAt? entry entryMarks) with
    | .initializer => return .initializer
    | .ambiguous => shapeOf? ts marks .ambiguous ranges
    | .parameters => shapeOf? ts marks shape ranges

theorem slice?_marked {start stop : Nat} {segment : List Marked} (h : slice? ms start stop = some segment) :
    slice? (tokensOf ms) start stop = some (tokensOf segment) ∧
      slice? (marksOf ms) start stop = some (marksOf segment) := by
  rw [tokensOf, marksOf, slice?_map, slice?_map, h]
  exact ⟨rfl, rfl⟩

/-- One value decides for values, and else one entry that could be either leaves it open. -/
theorem shapeOf?_eq {ranges : List (Nat × Nat)} {entries : List (List Marked)} (h : AreSegments ms ranges entries)
    (shape : Shape) :
    shapeOf? (tokensOf ms) (marksOf ms) shape ranges =
      let shapes := entries.map fun entry => entryShape (withoutDefault entry)
      some (if shapes.contains .initializer then .initializer
        else if shapes.contains .ambiguous then .ambiguous
        else shape) := by
  induction h generalizing shape with
  | nil => rfl
  | @cons range entry ranges entries hrange _ ih =>
      obtain ⟨htokens, hmarks⟩ := slice?_marked hrange
      simp only [shapeOf?, htokens, hmarks, Option.bind_eq_bind, Option.bind_some, withoutDefaultAt?_eq]
      cases hentry : entryShape (withoutDefault entry) with
      | initializer => simp [hentry]
      | ambiguous => simp [hentry, ih]
      | parameters => simp [hentry, ih]

def listShapeAt? (inner : List Token) : Option Shape :=
  if inner.isEmpty then some .parameters
  else do
    let marks := marksFrom {} inner
    shapeOf? inner marks .parameters (← segmentsAt? inner marks)

theorem listShapeAt?_eq (inner : List Token) : listShapeAt? inner = some (listShape inner) := by
  unfold listShapeAt? listShape
  split
  · rfl
  obtain ⟨ranges, hranges, hentries⟩ := exists_segmentsAt? (markTop {} inner)
  rw [← marksFrom_eq, tokensOf_markTop] at hranges
  have hshape := shapeOf?_eq hentries .parameters
  rw [← marksFrom_eq, tokensOf_markTop] at hshape
  simp only [hranges, Option.bind_eq_bind, Option.bind_some, hshape]

def parenthesizedAt? (ts : List Token) (paren : Nat) (site : Site) : Option (Option Declarator) := do
  let inner ← insideAt? ts paren
  if inner.head?.any (isOneOf ["*", "&", "^"]) then
    let before ← slice? ts 0 paren
    return if hasType before && !inner.any (·.isMark "(") then
      (inner.find? (·.isName)).map (⟨.variable, ·⟩)
    else none
  else
    match ← functionNameAt? ts paren site with
    | none => return none
    | some name =>
      match ← listShapeAt? inner with
      | .parameters => return some ⟨.function, name⟩
      | .initializer => return some ⟨.variable, name⟩
      | .ambiguous => return none

theorem parenthesizedAt?_eq (before : List Token) (h : ts ≠ []) (site : Site) :
    parenthesizedAt? (before ++ ts) before.length site = some (parenthesized? before ts site) := by
  simp only [parenthesizedAt?, insideAt?_eq before h, parenthesized?_eq, slice?_prefix, functionNameAt?_eq,
    listShapeAt?_eq, Option.bind_eq_bind, Option.bind_some, Option.pure_def]
  split
  · rfl
  · cases functionName? before site with
    | none => rfl
    | some name =>
        simp only
        cases listShape (insideParentheses ts) with
        | parameters => rfl
        | initializer => rfl
        | ambiguous => rfl

/-! ## Variables -/

/-- The variable that the segment between two positions declares. -/
def segmentVariableAt? (ts : List Token) (marks : List Bool) (isFirst : Bool) (start stop : Nat) :
    Option (Option Token) := do
  let segment ← slice? ts start stop
  let segmentMarks ← slice? marks start stop
  let head ← slice? segment 0 ((firstTop segment segmentMarks endsDeclarator).getD segment.length)
  match head.getLast?.filter (·.isName) with
  | none => return none
  | some name =>
    let before ← slice? head 0 (← head.length.ppred)
    let qualified := before.getLast?.any (isOneOf ["::", ".", "->"])
    return if !qualified && (!isFirst || hasType before) then some name else none

theorem segmentVariableAt?_eq {segment : List Marked} {start stop : Nat} (isFirst : Bool)
    (h : slice? ms start stop = some segment) :
    segmentVariableAt? (tokensOf ms) (marksOf ms) isFirst start stop = some (segmentVariable? isFirst segment) := by
  obtain ⟨htokens, hmarks⟩ := slice?_marked h
  simp only [segmentVariableAt?, htokens, hmarks, Option.bind_eq_bind, Option.bind_some, slice?_firstTop,
    segmentVariable?, Option.pure_def]
  generalize tokensOf (segment.takeWhile fun m => !(m.isTop && endsDeclarator m.token)) = head
  cases head using List.reverseRecOn with
  | nil => rfl
  | append_singleton before name _ =>
      rw [List.getLast?_concat, List.dropLast_concat]
      cases hname : name.isName with
      | false => simp only [Option.filter_some, hname, Bool.false_eq_true, if_false, Bool.false_and]
      | true =>
        simp only [Option.filter_some, hname, if_true, List.length_append, List.length_singleton, Nat.ppred_succ,
          Option.bind_some, slice?_prefix, Bool.true_and]

/-- The variables of segments that others come in front of. -/
def othersAt? (ts : List Token) (marks : List Bool) : List (Nat × Nat) → Option (List Token)
  | [] => some []
  | (start, stop) :: ranges => do
    let found ← segmentVariableAt? ts marks false start stop
    let others ← othersAt? ts marks ranges
    return found.toList ++ others

theorem othersAt?_eq {ranges : List (Nat × Nat)} {segments : List (List Marked)}
    (h : AreSegments ms ranges segments) :
    othersAt? (tokensOf ms) (marksOf ms) ranges = some (segments.filterMap (segmentVariable? false)) := by
  induction h with
  | nil => rfl
  | @cons range segment ranges segments hrange _ ih =>
      simp only [othersAt?, segmentVariableAt?_eq false hrange, ih, Option.bind_eq_bind, Option.bind_some,
        Option.pure_def, List.filterMap_cons]
      cases segmentVariable? false segment with
      | none => rfl
      | some name => rfl

def variableDeclaratorsAt? (ts : List Token) (marks : List Bool) : Option (List Declarator) := do
  match ← segmentsAt? ts marks with
  | [] => return []
  | (start, stop) :: ranges =>
    match ← segmentVariableAt? ts marks true start stop with
    | none => return []
    | some name => return (name :: (← othersAt? ts marks ranges)).map (⟨.variable, ·⟩)

theorem variableDeclaratorsAt?_eq (ms : List Marked) :
    variableDeclaratorsAt? (tokensOf ms) (marksOf ms) = some (variableDeclarators ms) := by
  obtain ⟨ranges, hranges, hsegments⟩ := exists_segmentsAt? ms
  simp only [variableDeclaratorsAt?, hranges, Option.bind_eq_bind, Option.bind_some, Option.pure_def,
    variableDeclarators]
  generalize splitCommas ms = segments at hsegments
  cases hsegments with
  | nil => rfl
  | @cons range segment ranges segments hfirst hothers =>
      simp only [segmentVariableAt?_eq true hfirst, othersAt?_eq hothers, Option.bind_some]
      cases segmentVariable? true segment with
      | none => rfl
      | some name => rfl

/-! ## Types -/

/-- The names in the head of a type, each with a look at what comes after its position. -/
def headNamesAt (head : List Token) : List Token :=
  (head.zipIdx.filter fun placed =>
    placed.1.isName && placed.1.text != "final" && !nextIs head placed.2 "::").map (·.1)

theorem headNamesAt_append (before after : List Token) :
    ((after.zipIdx before.length).filter fun placed =>
      placed.1.isName && placed.1.text != "final" && !nextIs (before ++ after) placed.2 "::").map (·.1) =
        headNames after := by
  induction after generalizing before with
  | nil => rfl
  | cons t after ih =>
      have hrest := ih (before ++ [t])
      simp only [List.length_append, List.length_singleton, List.append_assoc, List.singleton_append] at hrest
      simp only [List.zipIdx_cons, List.filter_cons, nextIs_append, headNames]
      split
      · rw [List.map_cons, hrest]
      · exact hrest

theorem headNamesAt_eq (head : List Token) : headNamesAt head = headNames head :=
  headNamesAt_append [] head

/-- What stands behind the keyword of a type, without the second keyword of an enumeration. -/
def behindKeyword? (keyword : Token) (rest : List Token) : Option (List Token) :=
  if keyword.text == "enum" && rest.head?.any (isWordOf ["class", "struct"]) then slice? rest 1 rest.length
  else some rest

theorem behindKeyword?_eq (keyword : Token) (rest : List Token) :
    behindKeyword? keyword rest =
      some (if keyword.text == "enum" && rest.head?.any (isWordOf ["class", "struct"]) then rest.drop 1
        else rest) := by
  unfold behindKeyword?
  split
  · rename_i h
    cases rest with
    | nil => simp at h
    | cons t rest => exact slice?_suffix [t] rest
  · rfl

def typeOpeningAt? (ts : List Token) : Option (Option Opening) :=
  match ts.findIdx? (isWordOf ["class", "struct", "union", "enum"]) with
  | none => some none
  | some index => do
    let keyword ← ts[index]?
    let rest ← behindKeyword? keyword (← slice? ts (index + 1) ts.length)
    let head ← slice? rest 0 ((rest.findIdx? (isOneOf [":", "<"])).getD rest.length)
    let names := withoutMacros (headNamesAt head)
    return if 2 ≤ names.length then some .initializer
      else if keyword.text == "enum" then some (.enumeration names.getLast?)
      else (RecordKind.ofKeyword? keyword.text).map fun kind => .record kind names.getLast?

theorem typeOpeningAt?_eq (ts : List Token) : typeOpeningAt? ts = some (typeOpening? ts) := by
  unfold typeOpeningAt? typeOpening?
  cases hindex : ts.findIdx? (isWordOf ["class", "struct", "union", "enum"]) with
  | none =>
      have hnone := List.findIdx?_eq_none_iff.mp hindex
      have hdrop : ts.dropWhile (fun t => !isWordOf ["class", "struct", "union", "enum"] t) = [] :=
        List.dropWhile_eq_nil_iff.mpr fun t ht => by simp [hnone t ht]
      rw [hdrop]
  | some index =>
      obtain ⟨front, keyword, rest, rfl, rfl, hkeyword, hfront⟩ := exists_cut_of_findIdx? hindex
      have hdrop : (front ++ keyword :: rest).dropWhile
          (fun t => !isWordOf ["class", "struct", "union", "enum"] t) = keyword :: rest := by
        rw [List.dropWhile_append_of_pos (by simpa using hfront), List.dropWhile_cons_of_neg (by simpa using hkeyword)]
      have hget : (front ++ keyword :: rest)[front.length]? = some keyword := by simp
      have hrest : slice? (front ++ keyword :: rest) (front.length + 1) (front ++ keyword :: rest).length =
          some rest := by
        simpa using slice?_suffix (front ++ [keyword]) rest
      simp only [hdrop, hget, hrest, behindKeyword?_eq, slice?_findIdx?, headNamesAt_eq, Option.bind_eq_bind,
        Option.bind_some, Option.pure_def]

/-! ## Statements -/

/-- Whether there is a colon outside all brackets from a position on. -/
def hasColonFrom? (ts : List Token) (marks : List Bool) (start : Nat) : Option Bool :=
  (List.range' start (ts.length - start)).anyM fun i => do
    if ← marks[i]? then return (← ts[i]?).isMark ":" else return false

theorem hasColonFrom?_eq (front back : List Marked) :
    hasColonFrom? (tokensOf (front ++ back)) (marksOf (front ++ back)) front.length =
      some (back.any (·.isTopMark ":")) := by
  rw [hasColonFrom?, length_tokensOf, List.length_append, Nat.add_sub_cancel_left]
  induction back generalizing front with
  | nil => rfl
  | cons m back ih =>
      have hrest := ih (front ++ [m])
      simp only [List.length_append, List.length_singleton, List.append_assoc, List.singleton_append] at hrest
      have hmark : (marksOf (front ++ m :: back))[front.length]? = some m.isTop := by simp [marksOf]
      have htoken : (tokensOf (front ++ m :: back))[front.length]? = some m.token := by simp [tokensOf]
      rw [List.length_cons, List.range'_succ]
      have hcolon : m.isTopMark ":" = (m.isTop && m.token.isMark ":") := rfl
      simp only [List.anyM, hmark, htoken, Option.bind_eq_bind, Option.bind_some, Option.pure_def, List.any_cons,
        hcolon]
      cases m.isTop with
      | false => simpa using hrest
      | true =>
        cases m.token.isMark ":" with
        | false => simpa using hrest
        | true => rfl

def openAfterParametersAt? (ts : List Token) (marks : List Bool) (paren : Nat) (site : Site) :
    Option Opening := do
  let hasColon ← hasColonFrom? ts marks (matchingParen ts paren + 1)
  if hasColon && ts.getLast?.any (fun t => t.kind = .word || t.isMark ">") then return .initializer
  else return .function (← functionNameAt? ts paren site)

theorem openAfterParametersAt?_eq (front : List Marked) (h : back ≠ []) (site : Site) :
    openAfterParametersAt? (tokensOf (front ++ back)) (marksOf (front ++ back)) front.length site =
      some (openAfterParameters (tokensOf (front ++ back)) front back site) := by
  have htokens : tokensOf (front ++ back) = tokensOf front ++ tokensOf back := List.map_append
  have hname := functionNameAt?_eq (tokensOf front) (tokensOf back) site
  rw [← htokens, length_tokensOf] at hname
  -- Where the parameters end, as a number of marked tokens in `back`.
  have hclose : matchingParen (tokensOf (front ++ back)) front.length + 1 =
      front.length + (splitGroup "(" ")" 0 (tokensOf back)).1.length := by
    have hback : tokensOf back ≠ [] := by simpa [tokensOf] using h
    have hpos := List.length_pos_iff.mpr (splitGroup_ne_nil "(" ")" 0 hback)
    have hskip := skipGroup_eq "(" ")" (tokensOf front) (tokensOf back)
    rw [← htokens, length_tokensOf] at hskip
    rw [matchingParen, hskip]
    omega
  have hlength : (splitGroup "(" ")" 0 (tokensOf back)).1.length ≤ back.length := by
    have hgroup := congrArg List.length (splitGroup_append "(" ")" 0 (tokensOf back))
    rw [List.length_append, length_tokensOf] at hgroup
    omega
  generalize hparameters : (splitGroup "(" ")" 0 (tokensOf back)).1.length = count at *
  have hcolon := hasColonFrom?_eq (front ++ back.take count) (back.drop count)
  rw [List.append_assoc, List.take_append_drop, List.length_append, List.length_take_of_le hlength] at hcolon
  simp only [openAfterParametersAt?, hclose, hcolon, hname, Option.bind_eq_bind, Option.bind_some, Option.pure_def,
    openAfterParameters, hasMemberInitializers, hparameters]
  split <;> rfl

def openPlainAt? (ts : List Token) : Option Opening := do
  match ← typeOpeningAt? ts with
  | some opening => return opening
  | none => return if 2 ≤ ts.length && ts.getLast?.any (·.isName) then .initializer else .block

theorem openPlainAt?_eq (ts : List Token) : openPlainAt? ts = some (openPlain ts) := by
  simp only [openPlainAt?, typeOpeningAt?_eq, Option.bind_eq_bind, Option.bind_some, openPlain]
  cases typeOpening? ts with
  | none => rfl
  | some opening => rfl

/-- Whether the tokens are a linkage and nothing else. -/
def isLinkageAt? (ts : List Token) (first : Token) : Option Bool :=
  if first.isWord "extern" && ts.length = 2 then ts[1]?.map (·.kind = .literal) else some false

theorem isLinkageAt?_eq (first : Token) (rest : List Token) :
    isLinkageAt? (first :: rest) first =
      some (first.isWord "extern" && rest.length = 1 && rest.any (·.kind = .literal)) := by
  rcases rest with _ | ⟨second, _ | ⟨third, rest⟩⟩
  · simp [isLinkageAt?]
  · cases hextern : first.isWord "extern" with
    | false => simp [isLinkageAt?, hextern]
    | true => simp [isLinkageAt?, hextern]
  · simp [isLinkageAt?]

theorem findIdx?_eq_cutAtFirst (p : Marked → Bool) (ms : List Marked) :
    ms.findIdx? p = (cutAtFirst p ms).map fun cut => cut.1.length := by
  fun_induction cutAtFirst p ms with
  | case1 => rfl
  | case2 m rest hm => simp [List.findIdx?_cons, hm]
  | case3 m rest hm ih => simp [List.findIdx?_cons, hm, ih, Function.comp_def]

/-- The position of the first parenthesis or equals sign. -/
theorem firstTop_eq_firstOfInterest (ts : List Token) :
    firstTop ts (marksFrom {} ts) (isOneOf ["(", "="]) =
      (firstOfInterest (markTop {} ts)).map fun cut => cut.1.length := by
  have h := firstTop_eq (markTop {} ts) (isOneOf ["(", "="])
  rw [tokensOf_markTop, ← marksFrom_eq] at h
  rw [h, firstOfInterest, ← findIdx?_eq_cutAtFirst]
  congr 1
  funext m
  simp only [Marked.isTopMark, isOneOf, Token.isMark, List.contains_cons, List.contains_nil, Bool.or_false,
    Bool.and_or_distrib_left]

def openAfterAt? (ts : List Token) (site : Site) : Option Opening :=
  match ts.head? with
  | none => some .block
  | some first => do
    if (ts.take 2).any (·.isWord "namespace") then return .namespaceBody
    else if ← isLinkageAt? ts first then return .namespaceBody
    else if isWordOf controlHeads first then return .block
    else if first.isWord "friend" || ts.any (·.isWord "operator") then return .function none
    else
      let marks := marksFrom {} ts
      match firstTop ts marks (isOneOf ["(", "="]) with
      | none => openPlainAt? ts
      | some i =>
        if (← ts[i]?).isMark "=" then return .initializer
        else openAfterParametersAt? ts marks i site

/-- The token at the position of the first parenthesis or equals sign. -/
theorem getElem?_firstOfInterest {found : Marked} (h : firstOfInterest (markTop {} ts) = some (front, found, back)) :
    ts[front.length]? = some found.token := by
  have hts := tokensOf_markTop {} ts
  rw [cutAtFirst_eq h] at hts
  rw [← hts]
  simp [tokensOf]

theorem openAfterAt?_eq (ts : List Token) (site : Site) : openAfterAt? ts site = some (openAfter ts site) := by
  cases ts with
  | nil => rfl
  | cons first rest =>
      simp only [openAfterAt?, List.head?_cons, isLinkageAt?_eq, Option.bind_eq_bind, Option.bind_some,
        firstTop_eq_firstOfInterest, Option.pure_def, openAfter, apply_ite some]
      refine ite_congr rfl (fun _ => rfl) fun _ => ite_congr rfl (fun _ => rfl) fun _ =>
        ite_congr rfl (fun _ => rfl) fun _ => ite_congr rfl (fun _ => rfl) fun _ => ?_
      cases hfirst : firstOfInterest (markTop {} (first :: rest)) with
      | none => exact openPlainAt?_eq (first :: rest)
      | some cut =>
          obtain ⟨before, found, after⟩ := cut
          have hparameters := openAfterParametersAt?_eq before (List.cons_ne_nil found after) site
          rw [← cutAtFirst_eq hfirst, tokensOf_markTop, ← marksFrom_eq] at hparameters
          simp only [Option.map_some, getElem?_firstOfInterest hfirst, Option.bind_some, hparameters, apply_ite some]

def classifyOpenAt? (statement : List Token) (site : Site) : Option Opening :=
  if 0 < bracketBalance statement then some .initializer
  else do openAfterAt? (← normalizeAt? statement) site

/-- The tokens without the linkage that they begin with. -/
def withoutLinkageAt? (ts : List Token) : Option (List Token) := do
  if 2 ≤ ts.length then
    if (← ts[0]?).isWord "extern" then
      if (← ts[1]?).kind = .literal then slice? ts 2 ts.length else return ts
    else return ts
  else return ts

theorem withoutLinkageAt?_eq (ts : List Token) : withoutLinkageAt? ts = some (withoutLinkage ts) := by
  rcases ts with _ | ⟨first, _ | ⟨second, rest⟩⟩
  · rfl
  · rfl
  · have hrest := slice?_suffix [first, second] rest
    simp only [List.length_cons, List.length_nil, List.cons_append, List.nil_append] at hrest
    have hlength : 2 ≤ (first :: second :: rest).length := by simp
    simp only [withoutLinkageAt?, if_pos hlength, List.getElem?_cons_zero, List.getElem?_cons_succ,
      Option.bind_eq_bind, Option.bind_some, Option.pure_def, withoutLinkage]
    cases first.isWord "extern" with
    | false => simp
    | true =>
      by_cases hkind : second.kind = .literal
      · simpa [hkind] using hrest
      · simp [hkind]

def declaredAt? (ts : List Token) (site : Site) : Option (List Declarator) :=
  if ts.head?.any (isWordOf skippedHeads) || ts.any (·.isWord "operator") then some []
  else
    let marks := marksFrom {} ts
    match firstTop ts marks (isOneOf ["(", "="]) with
    | none => variableDeclaratorsAt? ts marks
    | some i => do
      if (← ts[i]?).isMark "(" then return (← parenthesizedAt? ts i site).toList
      else variableDeclaratorsAt? ts marks

theorem declaredAt?_eq (ts : List Token) (site : Site) : declaredAt? ts site = some (declaredBy ts site) := by
  have hvariables := variableDeclaratorsAt?_eq (markTop {} ts)
  rw [tokensOf_markTop, ← marksFrom_eq] at hvariables
  simp only [declaredAt?, declaredBy, firstTop_eq_firstOfInterest, hvariables]
  split
  · rfl
  cases hfirst : firstOfInterest (markTop {} ts) with
  | none => rfl
  | some cut =>
      obtain ⟨before, found, after⟩ := cut
      have hts : tokensOf before ++ tokensOf (found :: after) = ts := by
        rw [← tokensOf_markTop {} ts, cutAtFirst_eq hfirst]
        exact List.map_append.symm
      have hfound : tokensOf (found :: after) ≠ [] := by simp [tokensOf]
      have hparenthesized := parenthesizedAt?_eq (tokensOf before) hfound site
      rw [hts, length_tokensOf] at hparenthesized
      simp only [Option.map_some, getElem?_firstOfInterest hfirst, Option.bind_eq_bind, Option.bind_some,
        hparenthesized, Option.pure_def]
      split <;> rfl

def classifyStatementAt? (statement : List Token) (site : Site) : Option (List Declarator) := do
  declaredAt? (← withoutLinkageAt? (← normalizeAt? statement)) site

/-- The loop that normalizes a statement advances with each step and ends, no jump leads past the end, and no
access is out of range: what is read by position is what the lists give. -/
theorem classify_inRange (statement : List Token) (site : Site) :
    (∀ opening closing start, skipGroup opening closing statement start ≤ statement.length) ∧
      (∀ i, i < statement.length →
        ∃ taken j, normalizeStep? statement i = some (taken, j) ∧ i < j ∧ j ≤ statement.length) ∧
      normalizeAt? statement = some (normalize statement) ∧
      classifyOpenAt? statement site = some (classifyOpen statement site) ∧
      classifyStatementAt? statement site = some (classifyStatement statement site) := by
  refine ⟨fun opening closing => skipGroup_le opening closing statement, fun i hi => ?_, normalizeAt?_eq statement,
    ?_, ?_⟩
  · obtain ⟨taken, j, h⟩ := exists_goodStep hi
    exact ⟨taken, j, h.step, h.advances, h.inRange⟩
  · simp only [classifyOpenAt?, classifyOpen, normalizeAt?_eq, openAfterAt?_eq, Option.bind_eq_bind,
      Option.bind_some, apply_ite some]
  · simp only [classifyStatementAt?, classifyStatement, normalizeAt?_eq, withoutLinkageAt?_eq, declaredAt?_eq,
      Option.bind_eq_bind, Option.bind_some]

/-- A parenthesis at the very end has nothing behind it, and a function is declared in front of it. -/
theorem classify_inRange_open_parenthesis :
    classifyOpenAt? (tokens "int f(") .global = some .initializer ∧
      classifyStatementAt? (tokens "int f(") .global = some [⟨.function, ⟨.word, "f", ⟨1, 5⟩⟩⟩] := by
  obtain ⟨-, -, -, hopen, hstatement⟩ := classify_inRange (tokens "int f(") .global
  rw [hopen, hstatement]
  decide +kernel

end NameLint.Declaration
