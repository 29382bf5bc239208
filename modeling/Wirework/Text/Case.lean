import Wirework.Text.Basic
import Wirework.Text.CaseMap
import Wirework.Text.Cased

/-!
# Case mappings of texts

Lower case depends on the neighbours of a capital sigma only: it takes its final form at the end of
a word. Upper case maps each character by itself.
-/

namespace Wirework.Text

/-- Whether the next character that is not passed over is cased. -/
def startsCased (cs : List Char) : Bool :=
  match cs.dropWhile isCaseIgnorable with
  | c :: _ => isCased c
  | [] => false

/-- The lower case of the rest of a text; `inWord` tells whether the last character that was not
passed over is cased. -/
def lowerFrom (inWord : Bool) : List Char → List Char
  | [] => []
  | c :: rest =>
    let here := if isCaseIgnorable c then inWord else isCased c
    let mapped := if c = 'Σ' then [if inWord && !startsCased rest then 'ς' else 'σ'] else lowerChar c
    mapped ++ lowerFrom here rest

def lower (s : String) : String := String.ofList (lowerFrom false s.toList)

def upper (s : String) : String := String.ofList (s.toList.flatMap upperChar)

def containsFolded (text part : String) : Bool :=
  occursIn (lower part).toList (lower text).toList

end Wirework.Text
