/-!
# Reserved words

The eight reserved words of the language, each with its one spelling, its role
and a short description. Looking a spelling up is exact and case-sensitive, and
it is the inverse of writing the spelling.
-/

namespace Recognizer

/-- The reserved words, in registry order. -/
inductive Keyword where
  | charWord
  | shortWord
  | longWord
  | intWord
  | classWord
  | mainWord
  | whileWord
  | returnWord
  deriving DecidableEq, Repr, Inhabited

namespace Keyword

/-- What a reserved word is used for. -/
inductive Category where
  /-- The word names a built-in data type. -/
  | basicType
  /-- The word belongs to a declaration. -/
  | declaration
  /-- The word opens a statement. -/
  | statement
  deriving DecidableEq, Repr, Inhabited

/-- Every reserved word, in registry order. -/
def all : List Keyword :=
  [charWord, shortWord, longWord, intWord, classWord, mainWord, whileWord, returnWord]

/-- The one spelling of a reserved word. -/
def spelling : Keyword → String
  | charWord => "char"
  | shortWord => "short"
  | longWord => "long"
  | intWord => "int"
  | classWord => "class"
  | mainWord => "main"
  | whileWord => "while"
  | returnWord => "return"

/-- The role of a reserved word. -/
def category : Keyword → Category
  | charWord | shortWord | longWord | intWord => .basicType
  | classWord | mainWord => .declaration
  | whileWord | returnWord => .statement

/-- A short description for readers of the registry. -/
def description : Keyword → String
  | charWord => "character type"
  | shortWord => "short integer type, optionally `short int`"
  | longWord => "long integer type, optionally `long int`"
  | intWord => "integer type"
  | classWord => "class declaration"
  | mainWord => "program entry function name"
  | whileWord => "loop statement"
  | returnWord => "return statement"

/-- Whether the word names a built-in data type. -/
def isBasicType (k : Keyword) : Bool :=
  k.category == .basicType

/-- The reserved word with this spelling, if there is one. -/
def ofSpelling? (s : String) : Option Keyword :=
  all.find? (·.spelling == s)

/-- The registry holds every reserved word. -/
theorem mem_all (k : Keyword) : k ∈ all := by
  cases k <;> decide

/-- Looking a spelling up gives back what was spelled. -/
theorem ofSpelling?_spelling (k : Keyword) : ofSpelling? k.spelling = some k := by
  cases k <;> decide

/-- Two reserved words with one spelling are the same. -/
theorem spelling_injective {k l : Keyword} (h : k.spelling = l.spelling) : k = l := by
  have hs := ofSpelling?_spelling k
  rw [h, ofSpelling?_spelling] at hs
  exact (Option.some.inj hs).symm

/-- A lookup succeeds exactly on the spelling. -/
theorem ofSpelling?_eq_some_iff {s : String} {k : Keyword} :
    ofSpelling? s = some k ↔ s = k.spelling := by
  constructor
  · intro h
    have hk := List.find?_some h
    exact (eq_of_beq hk).symm
  · rintro rfl
    exact ofSpelling?_spelling k

end Keyword

end Recognizer
