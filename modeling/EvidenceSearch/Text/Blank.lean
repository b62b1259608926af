/-!
# Blank characters and trimming

A character is blank if it is one of the line ends, the space separators, a tab, a form feed or
the byte order mark. Trimming removes blanks at both ends of a text and nowhere else.
-/

namespace EvidenceSearch

def isBlank (character : Char) : Bool :=
  let code := character.toNat
  (9 ≤ code && code ≤ 13) || code == 0x20 || code == 0xA0 || code == 0x1680 ||
    (0x2000 ≤ code && code ≤ 0x200A) || code == 0x2028 || code == 0x2029 ||
    code == 0x202F || code == 0x205F || code == 0x3000 || code == 0xFEFF

/-- Drop the blanks at the start and at the end. -/
def trimCharacters (characters : List Char) : List Char :=
  ((characters.dropWhile isBlank).reverse.dropWhile isBlank).reverse

/-- Drop the blanks at the start and at the end of a text. -/
def trim (text : String) : String :=
  String.ofList (trimCharacters text.toList)

end EvidenceSearch
