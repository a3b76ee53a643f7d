/-! Words of a line: the stretches between blanks. -/

namespace Fieldbus.Text

/-- Space, tab, line feed, form feed and carriage return separate words. -/
def isBlank (c : Char) : Bool :=
  c = ' ' || c = '\t' || c = '\n' || c = '\x0c' || c = '\r'

/-- The words of a text that follows the beginning of a word. -/
def wordsFrom (word : List Char) : List Char → List (List Char)
  | [] => if word.isEmpty then [] else [word]
  | c :: rest =>
    if isBlank c then
      if word.isEmpty then wordsFrom [] rest else word :: wordsFrom [] rest
    else wordsFrom (word ++ [c]) rest

def words (text : List Char) : List (List Char) := wordsFrom [] text

end Fieldbus.Text
