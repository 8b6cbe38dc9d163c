import NameLint.Proofs.Statement.Names

/-!
# Tokens that read alike

Most of what is asked of a statement is asked of single tokens: what kind of token it is, which mark, which of a
few words, whether it is reserved. Tokens with the same answers can be put for each other anywhere, and what a
statement declares and opens changes with them. Only the first token is asked more.
-/

namespace NameLint.Declaration

open NameLint.Source

/-- The words that are read wherever they stand. -/
def readWords : List String :=
  ["__attribute__", "__declspec", "alignas", "_Alignas", "template", "extern", "namespace", "operator", "class",
    "struct", "union", "enum", "final"] ++ controlHeads ++ expressionKeywords ++ builtinTypes

/-- A change of tokens after which each one reads like before. -/
structure ReadsAlike (f : Token → Token) : Prop where
  kind : ∀ t, (f t).kind = t.kind
  mark : ∀ t, t.kind = .mark → (f t).text = t.text
  word : ∀ t, t.kind = .word → ∀ text ∈ readWords, (f t).text = text ↔ t.text = text
  keyword : ∀ t, t.kind = .word → isKeyword (f t).text = isKeyword t.text
  exportMacro : ∀ t, t.kind = .word → isExportMacro (f t).text = isExportMacro t.text

/-- A site at which the change keeps constructors apart from other functions. -/
def KeepsConstructors (f : Token → Token) (site site' : Site) : Prop :=
  ∀ t, t.isName = true → isConstructor site' (f t) = isConstructor site t

variable {f : Token → Token} {site site' : Site}

namespace ReadsAlike

/-! ## Tests on single tokens -/

theorem isMark_eq (hf : ReadsAlike f) (t : Token) (text : String) : (f t).isMark text = t.isMark text := by
  by_cases h : t.kind = .mark <;> simp [Token.isMark, hf.kind, hf.mark, h]

theorem isOneOf_eq (hf : ReadsAlike f) (texts : List String) (t : Token) :
    isOneOf texts (f t) = isOneOf texts t := by
  by_cases h : t.kind = .mark <;> simp [isOneOf, hf.kind, hf.mark, h]

theorem contains_eq (hf : ReadsAlike f) {texts : List String} (htexts : ∀ text ∈ texts, text ∈ readWords)
    {t : Token} (h : t.kind = .word) : texts.contains (f t).text = texts.contains t.text := by
  rw [Bool.eq_iff_iff, List.contains_iff_mem, List.contains_iff_mem]
  constructor
  · intro hmem
    rwa [(hf.word t h _ (htexts _ hmem)).mp rfl]
  · intro hmem
    rwa [(hf.word t h _ (htexts _ hmem)).mpr rfl]

theorem isWordOf_eq (hf : ReadsAlike f) {texts : List String} (htexts : ∀ text ∈ texts, text ∈ readWords)
    (t : Token) : isWordOf texts (f t) = isWordOf texts t := by
  by_cases h : t.kind = .word
  · simp only [isWordOf, hf.kind, hf.contains_eq htexts h]
  · simp [isWordOf, hf.kind, h]

theorem isWord_eq (hf : ReadsAlike f) {text : String} (htext : text ∈ readWords) (t : Token) :
    (f t).isWord text = t.isWord text := by
  by_cases h : t.kind = .word
  · have hsame : ((f t).text == text) = (t.text == text) := by
      rw [Bool.eq_iff_iff, beq_iff_eq, beq_iff_eq, hf.word t h text htext]
    simp only [Token.isWord, hf.kind, hsame]
  · simp [Token.isWord, hf.kind, h]

theorem isName_eq (hf : ReadsAlike f) (t : Token) : (f t).isName = t.isName := by
  by_cases h : t.kind = .word <;> simp [Token.isName, hf.kind, hf.keyword, h]

theorem text_of_isWordOf (hf : ReadsAlike f) {texts : List String}
    (htexts : ∀ text ∈ texts, text ∈ readWords) {t : Token} (h : isWordOf texts t = true) :
    (f t).text = t.text := by
  simp only [isWordOf, Bool.and_eq_true, decide_eq_true_eq, List.contains_iff_mem] at h
  exact (hf.word t h.1 t.text (htexts _ h.2)).mpr rfl

theorem isAttributeWord_eq (hf : ReadsAlike f) (t : Token) :
    isAttributeWord (f t) = isAttributeWord t := hf.isWordOf_eq (by decide) t

theorem isExpressionToken_eq (hf : ReadsAlike f) (t : Token) :
    isExpressionToken (f t) = isExpressionToken t := by
  unfold isExpressionToken
  rw [hf.kind]
  cases h : t.kind with
  | word =>
      have hwords : ∀ text ∈ expressionKeywords, text ∈ readWords := by decide
      exact hf.contains_eq hwords h
  | mark => simp only [hf.mark t h]
  | literal | group | body => rfl

theorem isDeclarationToken_eq (hf : ReadsAlike f) (t : Token) :
    isDeclarationToken (f t) = isDeclarationToken t := by
  unfold isDeclarationToken
  by_cases h : t.kind = .word <;> simp [hf.isMark_eq, hf.kind, hf.keyword, h]

theorem endsDeclarator_eq (hf : ReadsAlike f) (t : Token) :
    endsDeclarator (f t) = endsDeclarator t := by
  simp only [endsDeclarator, hf.kind, hf.isOneOf_eq]

theorem hasType_map (hf : ReadsAlike f) (ts : List Token) :
    hasType (ts.map f) = hasType ts := by
  have hbuiltin : ∀ t : Token, (decide (t.kind = .word) && isBuiltinType (f t).text) =
      (decide (t.kind = .word) && isBuiltinType t.text) := by
    intro t
    by_cases h : t.kind = .word
    · have hwords : ∀ text ∈ builtinTypes, text ∈ readWords := by decide
      rw [isBuiltinType, hf.contains_eq hwords h, ← isBuiltinType]
    · simp [h]
  simp only [hasType, List.any_map, Function.comp_def, hf.isName_eq, hf.isMark_eq, hf.kind, hbuiltin]

theorem any_isOneOf_eq (hf : ReadsAlike f) (texts : List String) (t : Option Token) :
    (t.map f).any (isOneOf texts) = t.any (isOneOf texts) := by
  cases t <;> simp [hf.isOneOf_eq]

theorem any_isWordOf_eq (hf : ReadsAlike f) {texts : List String}
    (htexts : ∀ text ∈ texts, text ∈ readWords) (t : Option Token) :
    (t.map f).any (isWordOf texts) = t.any (isWordOf texts) := by
  cases t <;> simp [hf.isWordOf_eq htexts]

/-! ## Groups, segments and marks -/

theorem splitGroup_map (hf : ReadsAlike f) (opening closing : String) (depth : Nat) (ts : List Token) :
    splitGroup opening closing depth (ts.map f) =
      ((splitGroup opening closing depth ts).1.map f, (splitGroup opening closing depth ts).2.map f) := by
  induction ts generalizing depth with
  | nil => rfl
  | cons t ts ih =>
      simp only [List.map_cons, splitGroup, hf.isMark_eq, ih]
      split
      · rfl
      · split
        · split <;> rfl
        · rfl

theorem normalize_map (hf : ReadsAlike f) (ts : List Token) : normalize (ts.map f) = (normalize ts).map f := by
  fun_induction normalize ts with
  | case1 => simp [normalize]
  | case2 => simp [normalize]
  | case3 t next rest h ih =>
      simp only [List.map_cons, normalize, hf.isMark_eq, h, if_true]
      rw [← List.map_cons, hf.splitGroup_map]
      exact ih
  | case4 t next rest h h' ih =>
      simp only [List.map_cons, normalize, hf.isMark_eq, hf.isAttributeWord_eq, h, h', if_true,
        Bool.false_eq_true, if_false]
      rw [hf.splitGroup_map]
      exact ih
  | case5 t next rest h h' h'' ih =>
      simp (disch := decide) only [List.map_cons, normalize, hf.isMark_eq, hf.isWord_eq,
        hf.isAttributeWord_eq, h, h', h'', if_true, Bool.false_eq_true, if_false]
      rw [hf.splitGroup_map]
      exact ih
  | case6 t next rest h h' h'' ih =>
      simp (disch := decide) only [List.map_cons, normalize, hf.isMark_eq, hf.isWord_eq,
        hf.isAttributeWord_eq, h, h', h'', Bool.false_eq_true, if_false]
      exact congrArg _ ih

theorem bracketBalance_map (hf : ReadsAlike f) (ts : List Token) :
    bracketBalance (ts.map f) = bracketBalance ts := by
  simp only [bracketBalance, List.foldl_map, hf.isMark_eq]

end ReadsAlike

/-- A marked token with its token changed. -/
def Marked.map (f : Token → Token) (m : Marked) : Marked := ⟨f m.token, m.isTop⟩

@[simp] theorem Marked.token_map (m : Marked) : (m.map f).token = f m.token := rfl

@[simp] theorem Marked.isTop_map (m : Marked) : (m.map f).isTop = m.isTop := rfl

@[simp] theorem tokensOf_map (ms : List Marked) : tokensOf (ms.map (·.map f)) = (tokensOf ms).map f := by
  simp [tokensOf, Function.comp_def]

namespace ReadsAlike

theorem isTopMark_eq (hf : ReadsAlike f) (m : Marked) (text : String) :
    (m.map f).isTopMark text = m.isTopMark text := by
  simp [Marked.isTopMark, hf.isMark_eq]

theorem after_eq (hf : ReadsAlike f) (n : Nesting) (t : Token) : n.after (f t) = n.after t := by
  unfold Nesting.after
  by_cases h : t.kind = .mark <;> simp [hf.kind, hf.mark, h]

theorem markTop_map (hf : ReadsAlike f) (n : Nesting) (ts : List Token) :
    markTop n (ts.map f) = (markTop n ts).map (·.map f) := by
  induction ts generalizing n with
  | nil => rfl
  | cons t ts ih =>
      simp only [List.map_cons, markTop, hf.after_eq, ih]
      rfl

theorem splitCommas_map (hf : ReadsAlike f) (ms : List Marked) :
    splitCommas (ms.map (·.map f)) = (splitCommas ms).map (·.map (·.map f)) := by
  induction ms with
  | nil => rfl
  | cons m ms ih =>
      simp only [List.map_cons, splitCommas, hf.isTopMark_eq, ih]
      split
      · rfl
      · cases splitCommas ms <;> rfl

theorem firstOfInterest_map (hf : ReadsAlike f) (ms : List Marked) :
    firstOfInterest (ms.map (·.map f)) = (firstOfInterest ms).map fun (before, found, after) =>
      (before.map (·.map f), found.map f, after.map (·.map f)) := by
  simp only [firstOfInterest]
  induction ms with
  | nil => rfl
  | cons m ms ih =>
      simp only [List.map_cons, cutAtFirst, hf.isTopMark_eq, ih]
      split
      · rfl
      · cases cutAtFirst (fun m => m.isTopMark "(" || m.isTopMark "=") ms <;> rfl

theorem withoutLinkage_map (hf : ReadsAlike f) (ts : List Token) :
    withoutLinkage (ts.map f) = (withoutLinkage ts).map f := by
  match ts with
  | [] => rfl
  | [t] => rfl
  | first :: second :: rest =>
      simp (disch := decide) only [List.map_cons, withoutLinkage, hf.isWord_eq, hf.kind]
      rw [apply_ite (List.map _)]
      rfl

end ReadsAlike

/-! ## What is declared -/

/-- A declarator with its name changed. -/
def Declarator.map (f : Token → Token) (d : Declarator) : Declarator := ⟨d.entity, f d.name⟩

namespace ReadsAlike

theorem functionName?_map (hf : ReadsAlike f) (hsite : KeepsConstructors f site site') (before : List Token) :
    functionName? (before.map f) site' = (functionName? before site).map f := by
  simp only [functionName?, List.getLast?_map]
  cases before.getLast? with
  | none => rfl
  | some name =>
      simp only [Option.map_some, ← List.map_dropLast, List.getLast?_map, hf.any_isOneOf_eq,
        hf.isName_eq, hf.hasType_map]
      by_cases h : name.isName = true
      · rw [hsite name h]
        split <;> rfl
      · simp [h]

theorem segmentVariable?_map (hf : ReadsAlike f) (isFirst : Bool) (segment : List Marked) :
    segmentVariable? isFirst (segment.map (·.map f)) = (segmentVariable? isFirst segment).map f := by
  simp only [segmentVariable?, List.takeWhile_map, Function.comp_def, Marked.isTop_map, Marked.token_map,
    hf.endsDeclarator_eq, tokensOf_map, List.getLast?_map]
  generalize tokensOf (segment.takeWhile fun m => !(m.isTop && endsDeclarator m.token)) = head
  cases head.getLast? with
  | none => rfl
  | some name =>
      simp only [Option.map_some, ← List.map_dropLast, List.getLast?_map, hf.any_isOneOf_eq,
        hf.isName_eq, hf.hasType_map]
      split <;> rfl

theorem variableDeclarators_map (hf : ReadsAlike f) (ms : List Marked) :
    variableDeclarators (ms.map (·.map f)) = (variableDeclarators ms).map (·.map f) := by
  simp only [variableDeclarators, hf.splitCommas_map]
  cases splitCommas ms with
  | nil => rfl
  | cons first others =>
      simp only [List.map_cons, hf.segmentVariable?_map]
      cases segmentVariable? true first with
      | none => rfl
      | some name =>
          have hothers : (others.map (·.map (·.map f))).filterMap (segmentVariable? false) =
              (others.filterMap (segmentVariable? false)).map f := by
            simp only [List.filterMap_map, List.map_filterMap, Function.comp_def, hf.segmentVariable?_map]
          simp only [Option.map_some, hothers, List.map_cons, List.map_map]
          rfl

theorem entryShape_map (hf : ReadsAlike f) (entry : List Token) :
    entryShape (entry.map f) = entryShape entry := by
  simp only [entryShape, List.isEmpty_map, List.all_map, List.any_map, List.filter_map, List.length_map,
    Function.comp_def, hf.isMark_eq, hf.isExpressionToken_eq, hf.isDeclarationToken_eq, hf.isName_eq]

theorem withoutDefault_map (hf : ReadsAlike f) (entry : List Marked) :
    withoutDefault (entry.map (·.map f)) = (withoutDefault entry).map f := by
  simp only [withoutDefault, List.takeWhile_map, Function.comp_def, hf.isTopMark_eq, tokensOf_map]

theorem listShape_map (hf : ReadsAlike f) (inner : List Token) : listShape (inner.map f) = listShape inner := by
  simp only [listShape, List.isEmpty_map, hf.markTop_map, hf.splitCommas_map, List.map_map, Function.comp_def,
    hf.withoutDefault_map, hf.entryShape_map]

theorem parenthesized?_map (hf : ReadsAlike f) (hsite : KeepsConstructors f site site')
    (before fromParen : List Token) :
    parenthesized? (before.map f) (fromParen.map f) site' =
      (parenthesized? before fromParen site).map (·.map f) := by
  simp only [parenthesized?, hf.splitGroup_map, ← List.map_tail, ← List.map_dropLast, List.head?_map,
    hf.any_isOneOf_eq, hf.hasType_map, List.any_map, Function.comp_def, hf.isMark_eq, List.find?_map,
    hf.isName_eq, hf.functionName?_map hsite, hf.listShape_map]
  split
  · split
    · simp only [Option.map_map]
      rfl
    · rfl
  · cases functionName? before site with
    | none => rfl
    | some name =>
        simp only [Option.map_some]
        split <;> rfl

/-- What is declared by tokens that read alike, if the first ones begin a declaration alike. -/
theorem declaredBy_map (hf : ReadsAlike f) (hsite : KeepsConstructors f site site') {ts : List Token}
    (hhead : ∀ t ∈ ts.head?, isWordOf skippedHeads (f t) = isWordOf skippedHeads t) :
    declaredBy (ts.map f) site' = (declaredBy ts site).map (·.map f) := by
  have hdeclares : (ts.map f).head?.any (isWordOf skippedHeads) = ts.head?.any (isWordOf skippedHeads) := by
    rw [List.head?_map]
    cases hts : ts.head? with
    | none => rfl
    | some t => exact hhead t hts
  simp (disch := decide) only [declaredBy, hdeclares, List.any_map, Function.comp_def, hf.isWord_eq,
    hf.markTop_map, hf.firstOfInterest_map, hf.variableDeclarators_map]
  split
  · rfl
  cases firstOfInterest (markTop {} ts) with
  | none => rfl
  | some cut =>
      obtain ⟨before, found, after⟩ := cut
      simp only [Option.map_some, Marked.token_map, hf.isMark_eq]
      split
      · rw [← List.map_cons, tokensOf_map, tokensOf_map, hf.parenthesized?_map hsite]
        cases parenthesized? (tokensOf before) (tokensOf (found :: after)) site <;> rfl
      · rfl

theorem classifyStatement_map (hf : ReadsAlike f) (hsite : KeepsConstructors f site site')
    {statement : List Token}
    (hhead : ∀ t ∈ (withoutLinkage (normalize statement)).head?,
      isWordOf skippedHeads (f t) = isWordOf skippedHeads t) :
    classifyStatement (statement.map f) site' = (classifyStatement statement site).map (·.map f) := by
  simp only [classifyStatement, hf.normalize_map, hf.withoutLinkage_map, hf.declaredBy_map hsite hhead]

end ReadsAlike

/-! ## What is opened -/

/-- What a brace opens, with its name changed. -/
def Opening.map (f : Token → Token) : Opening → Opening
  | .record kind name => .record kind (name.map f)
  | .enumeration name => .enumeration (name.map f)
  | .function name => .function (name.map f)
  | .namespaceBody => .namespaceBody
  | .initializer => .initializer
  | .block => .block

namespace ReadsAlike

theorem headNames_map (hf : ReadsAlike f) (ts : List Token) : headNames (ts.map f) = (headNames ts).map f := by
  induction ts with
  | nil => rfl
  | cons t ts ih =>
      have hnext : (ts.map f).head?.any (·.isMark "::") = ts.head?.any (·.isMark "::") := by
        cases ts <;> simp [hf.isMark_eq]
      simp only [List.map_cons, headNames, hf.isName_eq, hnext, ih]
      by_cases h : t.isName = true
      · have hfinal : ((f t).text != "final") = (t.text != "final") := by
          rw [Bool.eq_iff_iff, bne_iff_ne, bne_iff_ne, Ne,
            hf.word t (Token.kind_of_isName h) "final" (by decide)]
        rw [hfinal, apply_ite (List.map _)]
        rfl
      · simp [h]

theorem withoutMacros_map (hf : ReadsAlike f) {names : List Token} (h : ∀ n ∈ names, n.isName = true) :
    withoutMacros (names.map f) = (withoutMacros names).map f := by
  simp only [withoutMacros, List.getLast?_map]
  cases names.getLast? with
  | none => rfl
  | some last =>
      simp only [Option.map_some, ← List.map_dropLast, List.filter_map, List.map_append, List.map_cons,
        List.map_nil]
      congr 2
      refine List.filter_congr fun n hn => ?_
      have hname := h n (List.dropLast_subset names hn)
      simp [hf.exportMacro n (Token.kind_of_isName hname)]

theorem typeOpening?_map (hf : ReadsAlike f) (ts : List Token) :
    typeOpening? (ts.map f) = (typeOpening? ts).map (·.map f) := by
  simp (disch := decide) only [typeOpening?, List.dropWhile_map, Function.comp_def, hf.isWordOf_eq]
  cases hdrop : ts.dropWhile fun t => !isWordOf ["class", "struct", "union", "enum"] t with
  | nil => rfl
  | cons keyword rest =>
      -- The keyword keeps its text, on which the rest depends.
      have hkeyword : isWordOf ["class", "struct", "union", "enum"] keyword = true := by
        have hhead := List.head?_dropWhile_not
          (fun t => !isWordOf ["class", "struct", "union", "enum"] t) ts
        simpa [hdrop] using hhead
      have hrest : (if keyword.text == "enum" && (rest.map f).head?.any (isWordOf ["class", "struct"]) then
            (rest.map f).drop 1 else rest.map f) =
          (if keyword.text == "enum" && rest.head?.any (isWordOf ["class", "struct"]) then
            rest.drop 1 else rest).map f := by
        rw [List.head?_map, hf.any_isWordOf_eq (by decide), ← List.map_drop, apply_ite (List.map _)]
      have hnames := fun head : List Token => hf.withoutMacros_map
        (headNames_spec (head.takeWhile fun t => !isOneOf [":", "<"] t)).2
      simp only [List.map_cons, hf.text_of_isWordOf (by decide) hkeyword, hrest, List.takeWhile_map,
        Function.comp_def, hf.isOneOf_eq, hf.headNames_map, hnames, List.length_map, List.getLast?_map]
      generalize withoutMacros _ = names
      split
      · rfl
      split
      · rfl
      · simp only [Option.map_map]
        rfl

theorem openPlain_map (hf : ReadsAlike f) (ts : List Token) :
    openPlain (ts.map f) = (openPlain ts).map f := by
  simp only [openPlain, hf.typeOpening?_map]
  cases typeOpening? ts with
  | some opening => rfl
  | none =>
      have hlast : (ts.map f).getLast?.any (·.isName) = ts.getLast?.any (·.isName) := by
        rw [List.getLast?_map]
        cases ts.getLast? <;> simp [hf.isName_eq]
      simp only [Option.map_none, List.length_map, hlast]
      split <;> rfl

theorem hasMemberInitializers_map (hf : ReadsAlike f) (fromParen : List Marked) :
    hasMemberInitializers (fromParen.map (·.map f)) = hasMemberInitializers fromParen := by
  simp only [hasMemberInitializers, tokensOf_map, hf.splitGroup_map, List.length_map, ← List.map_drop,
    List.any_map, Function.comp_def, hf.isTopMark_eq]

theorem openAfterParameters_map (hf : ReadsAlike f) (hsite : KeepsConstructors f site site') (ts : List Token)
    (before fromParen : List Marked) :
    openAfterParameters (ts.map f) (before.map (·.map f)) (fromParen.map (·.map f)) site' =
      (openAfterParameters ts before fromParen site).map f := by
  have hlast : (ts.map f).getLast?.any (fun t => t.kind = .word || t.isMark ">") =
      ts.getLast?.any (fun t => t.kind = .word || t.isMark ">") := by
    rw [List.getLast?_map]
    cases ts.getLast? <;> simp [hf.kind, hf.isMark_eq]
  simp only [openAfterParameters, hf.hasMemberInitializers_map, hlast, tokensOf_map,
    hf.functionName?_map hsite]
  split <;> rfl

/-- What is opened behind tokens that read alike, if the first ones are both friends or both not. -/
theorem openAfter_map (hf : ReadsAlike f) (hsite : KeepsConstructors f site site') {ts : List Token}
    (hhead : ∀ t ∈ ts.head?, (f t).isWord "friend" = t.isWord "friend") :
    openAfter (ts.map f) site' = (openAfter ts site).map f := by
  cases hts : ts with
  | nil => rfl
  | cons first rest =>
      have hfriend : (f first).isWord "friend" = first.isWord "friend" := hhead first (by rw [hts]; rfl)
      rw [← hts, openAfter_eq site hts, openAfter_eq site' (congrArg (List.map f) hts)]
      simp (disch := decide) only [← List.map_take, List.any_map, Function.comp_def, hf.isWord_eq, hf.kind,
        List.length_map, hf.isWordOf_eq, hf.markTop_map, hf.firstOfInterest_map, hfriend]
      split
      · rfl
      split
      · rfl
      split
      · rfl
      split
      · rfl
      cases firstOfInterest (markTop {} ts) with
      | none => exact hf.openPlain_map ts
      | some cut =>
          obtain ⟨before, found, after⟩ := cut
          simp only [Option.map_some, Marked.token_map, hf.isMark_eq]
          split
          · rfl
          · exact hf.openAfterParameters_map hsite ts before (found :: after)

theorem classifyOpen_map (hf : ReadsAlike f) (hsite : KeepsConstructors f site site') {statement : List Token}
    (hhead : ∀ t ∈ (normalize statement).head?, (f t).isWord "friend" = t.isWord "friend") :
    classifyOpen (statement.map f) site' = (classifyOpen statement site).map f := by
  simp only [classifyOpen, hf.bracketBalance_map, hf.normalize_map, hf.openAfter_map hsite hhead]
  split <;> rfl

end ReadsAlike

end NameLint.Declaration
