/-!
# Texts as lists of characters

Tests and cuts on texts, stated on their characters.
-/

namespace Wirework.Text

def startsWith (text part : String) : Bool := part.toList.isPrefixOf text.toList

def endsWith (text part : String) : Bool := part.toList.isSuffixOf text.toList

/-- Whether `part` occurs in a text. -/
def occursIn (part : List Char) : List Char → Bool
  | [] => part.isEmpty
  | c :: rest => part.isPrefixOf (c :: rest) || occursIn part rest

/-- Every occurrence of one character replaced by a text. -/
def replaceChar (c : Char) (by' : List Char) (cs : List Char) : List Char :=
  cs.flatMap fun x => if x = c then by' else [x]

/-- A text without the occurrences of a part, found from the left; `skip` characters of the last
one are still to be passed over. -/
def removeFrom (part : List Char) : Nat → List Char → List Char
  | _, [] => []
  | skip + 1, _ :: rest => removeFrom part skip rest
  | 0, c :: rest =>
    if part.isPrefixOf (c :: rest) then removeFrom part (part.length - 1) rest
    else c :: removeFrom part 0 rest

/-- A text without the occurrences of a part, which is not empty. -/
def removeAll (part : String) (cs : List Char) : List Char := removeFrom part.toList 0 cs

def take (n : Nat) (text : String) : String := String.ofList (text.toList.take n)

/-- A text without a character at its end, as often as it stands there. -/
def dropTrailing (c : Char) (text : String) : String :=
  String.ofList (text.toList.reverse.dropWhile (· = c)).reverse

/-- A text in which every line ends in a line feed alone. -/
def unifyLineEnds : List Char → List Char
  | [] => []
  | '\r' :: '\n' :: rest => '\n' :: unifyLineEnds rest
  | c :: rest => (if c = '\r' then '\n' else c) :: unifyLineEnds rest

def size (text : String) : Nat := text.toList.length

end Wirework.Text
