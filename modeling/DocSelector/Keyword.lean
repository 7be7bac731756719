/-!
# Keywords

Three words are reserved in selectors. They are recognised letter for letter: the same word with a
capital is an ordinary name.
-/

namespace DocSelector

/-- A reserved word: it says what kind of part of a document is addressed. -/
inductive Keyword where
  /-- A section by its title. -/
  | heading
  /-- A block, such as a table or a piece of code. -/
  | block
  /-- A document by its name. -/
  | nameSpace
deriving DecidableEq, Repr

namespace Keyword

/-- Every keyword, in the order in which they are offered. -/
def all : List Keyword := [heading, block, nameSpace]

def text : Keyword → String
  | heading => "heading"
  | block => "block"
  | nameSpace => "namespace"

def minBytes : Nat := 5

def maxBytes : Nat := 9

/-- The keyword spelt `word`, if there is one. A word that is too short or too long for a keyword is
not compared with any of them. -/
def ofText? (word : String) : Option Keyword :=
  if word.utf8ByteSize < minBytes || maxBytes < word.utf8ByteSize then none
  else all.find? fun keyword => keyword.text == word

theorem mem_all (keyword : Keyword) : keyword ∈ all := by
  cases keyword <;> decide

/-- A word is read as a keyword exactly when it is spelt like it. -/
theorem ofText?_eq_some_iff {word : String} {keyword : Keyword} :
    ofText? word = some keyword ↔ keyword.text = word := by
  constructor
  · intro h
    simp only [ofText?] at h
    split at h
    · cases h
    · simpa using List.find?_some h
  · rintro rfl
    cases keyword <;> decide

end Keyword

end DocSelector
