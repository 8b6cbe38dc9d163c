import NameLint.Unicode.Property

/-!
# Identifier characters

The characters that begin and continue identifiers in text, in the plain form and in the form that
is closed under normalization, and the ideographs.
-/

namespace NameLint.Unicode

/-- Characters other than letters that begin identifiers. -/
def otherIdStart : PointSet := .ofText
  "1885 1887 2118 2119 212e 212f 309b 309d"

/-- Characters that begin identifiers. -/
def isIdStart (c : Char) : Bool :=
  (category c ∈ [.lu, .ll, .lt, .lm, .lo, .nl] && c.toNat != 0x2e2f)
    || otherIdStart.contains c.toNat

/-- Characters other than marks, digits and connectors that continue identifiers. -/
def otherIdContinue : PointSet := .ofText
  "b7 b8 387 388 1369 1372 19da 19db 200c 200e 30fb 30fc ff65 ff66"

/-- Characters that continue identifiers. -/
def isIdContinue (c : Char) : Bool :=
  isIdStart c || category c ∈ [.mn, .mc, .nd, .pc] || otherIdContinue.contains c.toNat

/-- Characters that begin identifiers but not after normalization. -/
def unstableIdStart : PointSet := .ofText
  "37a 37b e33 e34 eb3 eb4 309b 309d fc5e fc64 fdfa fdfc fe70 fe71 fe72 fe73 fe74 fe75 fe76 fe77
   fe78 fe79 fe7a fe7b fe7c fe7d fe7e fe7f ff9e ffa0"

/-- Characters that begin identifiers before and after normalization. -/
def isXidStart (c : Char) : Bool :=
  isIdStart c && !unstableIdStart.contains c.toNat

/-- Characters that continue identifiers but not after normalization. -/
def unstableIdContinue : PointSet := .ofText
  "37a 37b 309b 309d fc5e fc64 fdfa fdfc fe70 fe71 fe72 fe73 fe74 fe75 fe76 fe77 fe78 fe79 fe7a
   fe7b fe7c fe7d fe7e fe7f"

/-- Characters that continue identifiers before and after normalization. -/
def isXidContinue (c : Char) : Bool :=
  isIdContinue c && !unstableIdContinue.contains c.toNat

/-- The ideographs. -/
def ideographs : PointSet := .ofText
  "3006 3008 3021 302a 3038 303b 3400 4dc0 4e00 a000 f900 fa6e fa70 fada 16fe4 16fe5 16ff2 16ff7
   17000 18cd6 18cff 18d1f 18d80 18df3 1b170 1b2fc 20000 2a6e0 2a700 2b81e 2b820 2ceae 2ceb0 2ebe1
   2ebf0 2ee5e 2f800 2fa1e 30000 3134b 31350 3347a"

end NameLint.Unicode
