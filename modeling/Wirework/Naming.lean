import Wirework.Text.Alphanumeric
import Wirework.Text.Basic
import Wirework.Text.Case
import Wirework.Text.Cased

/-!
# Identifier cases

Display names as identifiers. Snake case starts a word at a capital that follows anything but a
capital, so runs of capitals stay together: `MyAPIKey` becomes `my_apikey`. The words of Pascal and
camel case are runs of ASCII letters and digits.
-/

namespace Wirework.Naming

/-! ## Snake case -/

/-- The characters of a name with a mark at each start of a word and for each character that is no
letter or digit. `start` tells that nothing stands before, `capital` that a capital does. -/
def markWords (start capital : Bool) : List Char → List Char
  | [] => []
  | c :: rest =>
    if Text.isUppercase c then
      (if start || capital then [] else ['_']) ++ Text.lowerChar c ++ markWords false true rest
    else if Text.isAlphanumeric c || c = '_' then c :: markWords false false rest
    else '_' :: markWords false false rest

/-- Runs of marks made single. -/
def squeeze : List Char → List Char
  | [] => []
  | c :: rest => if c = '_' && rest.head? = some '_' then squeeze rest else c :: squeeze rest

/-- A text without marks at its ends. -/
def strip (cs : List Char) : List Char :=
  ((cs.dropWhile (· = '_')).reverse.dropWhile (· = '_')).reverse

def snakeChars (cs : List Char) : List Char := strip (squeeze (markWords true false cs))

def snake (name : String) : String := String.ofList (snakeChars name.toList)

def isCapital (cs : List Char) : Bool :=
  cs.any Text.isUppercase && cs.all fun c => Text.isUppercase c || !Text.isCased c

/-- The pieces of a name with marks, where each piece counts as one letter. -/
def markPieces (start capital : Bool) : List String → List Char
  | [] => []
  | piece :: rest =>
    let cs := piece.toList
    if isCapital cs then
      (if start || capital then [] else ['_']) ++ (Text.lower piece).toList
        ++ markPieces false true rest
    else if (!cs.isEmpty && cs.all Text.isAlphanumeric) || piece = "_" then
      cs ++ markPieces false false rest
    else '_' :: markPieces false false rest

def snakePieces (pieces : List String) : String :=
  String.ofList (strip (squeeze (markPieces true false pieces)))

/-- Snake case in capitals. -/
def screaming (name : String) : String := Text.upper (snake name)

/-! ## Pascal and camel case -/

/-- The words of a name in Pascal case; a letter is made a capital at the start of each word, and
other capitals are kept. `start` tells that the next letter starts a word. -/
def capitalize (start : Bool) : List Char → List Char
  | [] => []
  | c :: rest =>
    if c.isAlphanum then (if start then c.toUpper else c) :: capitalize false rest
    else capitalize true rest

def pascal (name : String) : String := String.ofList (capitalize true name.toList)

/-- Pascal case with a small first letter. -/
def camel (name : String) : String :=
  match capitalize true name.toList with
  | [] => ""
  | c :: rest => String.ofList (c.toLower :: rest)

end Wirework.Naming
