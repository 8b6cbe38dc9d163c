import NameLint.Unicode.CategoryRuns
import NameLint.Unicode.Table

/-!
# General categories

The thirty general categories of characters and the look-up of a character's category.
-/

namespace NameLint.Unicode

/-- The general category of a character. -/
inductive Category where
  | lu | ll | lt | lm | lo
  | mn | mc | me
  | nd | nl | no
  | pc | pd | ps | pe | pi | pf | po
  | sm | sc | sk | so
  | zs | zl | zp
  | cc | cf | cs | co | cn
  deriving DecidableEq, Repr

namespace Category

/-- Each category with its two-letter code and its long names. -/
def names : List (Category × List String) :=
  [(.lu, ["Lu", "Uppercase_Letter"]), (.ll, ["Ll", "Lowercase_Letter"]),
   (.lt, ["Lt", "Titlecase_Letter"]), (.lm, ["Lm", "Modifier_Letter"]),
   (.lo, ["Lo", "Other_Letter"]), (.mn, ["Mn", "Nonspacing_Mark"]),
   (.mc, ["Mc", "Spacing_Mark"]), (.me, ["Me", "Enclosing_Mark"]),
   (.nd, ["Nd", "Decimal_Number", "digit"]), (.nl, ["Nl", "Letter_Number"]),
   (.no, ["No", "Other_Number"]), (.pc, ["Pc", "Connector_Punctuation"]),
   (.pd, ["Pd", "Dash_Punctuation"]), (.ps, ["Ps", "Open_Punctuation"]),
   (.pe, ["Pe", "Close_Punctuation"]), (.pi, ["Pi", "Initial_Punctuation"]),
   (.pf, ["Pf", "Final_Punctuation"]), (.po, ["Po", "Other_Punctuation"]),
   (.sm, ["Sm", "Math_Symbol"]), (.sc, ["Sc", "Currency_Symbol"]),
   (.sk, ["Sk", "Modifier_Symbol"]), (.so, ["So", "Other_Symbol"]),
   (.zs, ["Zs", "Space_Separator"]), (.zl, ["Zl", "Line_Separator"]),
   (.zp, ["Zp", "Paragraph_Separator"]), (.cc, ["Cc", "Control", "cntrl"]),
   (.cf, ["Cf", "Format"]), (.cs, ["Cs", "Surrogate"]), (.co, ["Co", "Private_Use"]),
   (.cn, ["Cn", "Unassigned"])]

/-- The groups of categories, each with its names. -/
def groups : List (List Category × List String) :=
  [([.lu, .ll, .lt], ["LC", "Cased_Letter"]), ([.lu, .ll, .lt, .lm, .lo], ["L", "Letter"]),
   ([.mn, .mc, .me], ["M", "Mark", "Combining_Mark"]), ([.nd, .nl, .no], ["N", "Number"]),
   ([.pc, .pd, .ps, .pe, .pi, .pf, .po], ["P", "Punctuation", "punct"]),
   ([.sm, .sc, .sk, .so], ["S", "Symbol"]), ([.zs, .zl, .zp], ["Z", "Separator"]),
   ([.cc, .cf, .cs, .co, .cn], ["C", "Other"])]

/-- The category with a two-letter code. -/
def ofCode? (code : String) : Option Category :=
  (names.find? (·.2.head? == some code)).map (·.1)

end Category

/-- The table of general categories. -/
def categoryRuns : RunMap Category :=
  RunMap.ofText Category.ofCode? categoryRunsText

/-- The general category of a character. -/
def category (c : Char) : Category :=
  (categoryRuns.get? c.toNat).getD .cn

end NameLint.Unicode
