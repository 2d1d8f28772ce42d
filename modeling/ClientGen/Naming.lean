import ClientGen.Text.CaseMap

/-!
Identifiers made from resource URIs, path segments, property names and relation names.

A word is a run of ASCII letters and digits; every other character only separates words. Names
are worked out on lists of characters, and the functions on strings wrap them.
-/

namespace ClientGen.Naming

namespace Chars

def capitalize : List Char → List Char
  | [] => []
  | c :: rest => Text.upper c ++ rest

def decapitalize : List Char → List Char
  | [] => []
  | c :: rest => Text.lower c ++ rest

def words (s : List Char) : List (List Char) :=
  (s.splitOnP fun c => !c.isAlphanum).filter (· ≠ [])

def typeName (s : List Char) : List Char :=
  (words s).flatMap capitalize

/-- Written in camel case; an underscore keeps a leading digit off the front. -/
def fieldName (s : List Char) : List Char :=
  match words s with
  | [] => []
  | w :: ws =>
    let name := decapitalize w ++ ws.flatMap capitalize
    if name.head?.any Char.isDigit then '_' :: name else name

def hasPlaceholder (s : List Char) : Bool :=
  (s.dropWhile (· ≠ '\x7b')).contains '\x7d'

theorem words_append_cons {c : Char} (h : c.isAlphanum = false) (a b : List Char) :
    words (a ++ c :: b) = words a ++ words b := by
  simp [words, List.splitOnP_append_cons, h]

theorem typeName_append_cons {c : Char} (h : c.isAlphanum = false) (a b : List Char) :
    typeName (a ++ c :: b) = typeName a ++ typeName b := by
  simp [typeName, words_append_cons h]

end Chars

def capitalize (s : String) : String := String.ofList (Chars.capitalize s.toList)

def decapitalize (s : String) : String := String.ofList (Chars.decapitalize s.toList)

def typeName (s : String) : String := String.ofList (Chars.typeName s.toList)

/-- The identifier of a property or query parameter; empty when the name has no word. -/
def fieldName (s : String) : String := String.ofList (Chars.fieldName s.toList)

def hasPlaceholder (s : String) : Bool := Chars.hasPlaceholder s.toList

def getterName (field : String) : String := "get" ++ capitalize field

def setterName (field : String) : String := "set" ++ capitalize field

def fluentName (field : String) : String := "with" ++ capitalize field

end ClientGen.Naming

/-! Identifiers of the generated sources, and dotted package names. -/

namespace ClientGen

def isIdentifierStart (c : Char) : Bool := c.isAlpha || c == '_' || c == '$'

def isIdentifierPart (c : Char) : Bool := c.isAlphanum || c == '_' || c == '$'

def isIdentifierChars : List Char → Bool
  | [] => false
  | c :: rest => isIdentifierStart c && rest.all isIdentifierPart

def isIdentifier (s : String) : Bool := isIdentifierChars s.toList

def isPackage (s : String) : Bool := (s.toList.splitOn '.').all isIdentifierChars

end ClientGen
