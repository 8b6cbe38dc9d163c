import NameLint.Unicode.ListedRuns
import NameLint.Unicode.Table

/-!
# Listed properties

The properties of characters that are read from a table of their own, and their names.
-/

namespace NameLint.Unicode

/-- The names of each listed property, the long one first. -/
def listedPropertyNames : List (List String) :=
  [["Bidi_Control", "Bidi_C"], ["Bidi_Mirrored", "Bidi_M"], ["Changes_When_Casefolded", "CWCF"],
   ["Changes_When_Casemapped", "CWCM"], ["Changes_When_Lowercased", "CWL"],
   ["Changes_When_Titlecased", "CWT"], ["Changes_When_Uppercased", "CWU"], ["Dash"],
   ["Default_Ignorable_Code_Point", "DI"], ["Deprecated", "Dep"], ["Diacritic", "Dia"], ["Emoji"],
   ["Emoji_Component", "EComp"], ["Emoji_Modifier", "EMod"], ["Emoji_Modifier_Base", "EBase"],
   ["Emoji_Presentation", "EPres"], ["Extended_Pictographic", "ExtPict"], ["Extender", "Ext"],
   ["Grapheme_Base", "Gr_Base"], ["Grapheme_Extend", "Gr_Ext"], ["IDS_Binary_Operator", "IDSB"],
   ["IDS_Trinary_Operator", "IDST"], ["Logical_Order_Exception", "LOE"], ["Math"],
   ["Noncharacter_Code_Point", "NChar"], ["Pattern_Syntax", "Pat_Syn"],
   ["Pattern_White_Space", "Pat_WS"], ["Prepended_Concatenation_Mark", "PCM"],
   ["Quotation_Mark", "QMark"], ["Radical"], ["Regional_Indicator", "RI"],
   ["Sentence_Terminal", "STerm"], ["Soft_Dotted", "SD"], ["Terminal_Punctuation", "Term"],
   ["Unified_Ideograph", "UIdeo"], ["Variation_Selector", "VS"]]

/-- The characters of a listed property, by its long name. -/
def listedProperty? (name : String) : Option PointSet :=
  PointSet.ofNamedText? listedPropertiesText name

end NameLint.Unicode
