import NameLint.Source.Token

/-!
# Reserved words

The words of C and C++ that never are declared names, and those of them that are built-in types.
-/

namespace NameLint.Source

/-- The reserved words. -/
def keywords : List String :=
  ["alignas", "alignof", "and", "and_eq", "asm", "auto", "bitand", "bitor", "bool", "break",
   "case", "catch", "char", "char8_t", "char16_t", "char32_t", "class", "co_await", "co_return",
   "co_yield", "compl", "concept", "const", "consteval", "constexpr", "constinit", "const_cast",
   "continue", "decltype", "default", "delete", "do", "double", "dynamic_cast", "else", "enum",
   "explicit", "export", "extern", "false", "float", "for", "friend", "goto", "if", "inline",
   "int", "long", "mutable", "namespace", "new", "noexcept", "not", "not_eq", "nullptr",
   "operator", "or", "or_eq", "private", "protected", "public", "register", "reinterpret_cast",
   "requires", "restrict", "return", "short", "signed", "sizeof", "static", "static_assert",
   "static_cast", "struct", "switch", "template", "this", "thread_local", "throw", "true", "try",
   "typedef", "typeid", "typename", "union", "unsigned", "using", "virtual", "void", "volatile",
   "wchar_t", "while", "xor", "xor_eq", "_Bool", "_Complex", "_Atomic", "_Thread_local",
   "_Noreturn", "_Alignas", "_Static_assert"]

/-- The built-in type words; a parameter that holds one is a declaration. -/
def builtinTypes : List String :=
  ["void", "bool", "char", "char8_t", "char16_t", "char32_t", "wchar_t", "short", "int", "long",
   "float", "double", "signed", "unsigned", "auto", "_Bool", "_Complex"]

/-- Whether a word is reserved. -/
def isKeyword (word : String) : Bool := keywords.contains word

/-- Whether a word is a built-in type. -/
def isBuiltinType (word : String) : Bool := builtinTypes.contains word

namespace Token

/-- Whether the token is the punctuation mark with this text. -/
def isMark (t : Token) (text : String) : Bool :=
  t.kind = .mark && t.text == text

/-- Whether the token is an opening brace. -/
def opensBrace (t : Token) : Bool := t.isMark "\x7b"

/-- Whether the token is a closing brace. -/
def closesBrace (t : Token) : Bool := t.isMark "\x7d"

/-- Whether the token is the word with this text. -/
def isWord (t : Token) (text : String) : Bool :=
  t.kind = .word && t.text == text

/-- Whether the token is a word that is not reserved. -/
def isName (t : Token) : Bool :=
  t.kind = .word && !isKeyword t.text

theorem kind_of_isName {t : Token} (h : t.isName = true) : t.kind = .word := by
  simp only [isName, Bool.and_eq_true, decide_eq_true_eq] at h
  exact h.1

end Token

end NameLint.Source
