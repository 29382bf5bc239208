import Wirework.Console.Styled
import Wirework.Pattern.Reader
import Wirework.Pattern.Search

/-!
# Highlights

In a text that stands by itself on the console, numbers, quoted texts, paths and the like are in styles
of their own. The styles are not shown, but the text falls into segments where they start and stop.
-/

namespace Wirework.Highlight

/-- Tags, assignments and brackets. -/
def outerParts : List String := [
  "(<)([-\\w.:|]*)([\\w\\W]*)(>)",
  "([\\w_]\x7b1,50\x7d)=(\"?[\\w_]+\"?)?",
  "([][\x7b\x7d()])"]

def addresses : List String := [
  "([0-9]\x7b1,3\x7d\\.[0-9]\x7b1,3\x7d\\.[0-9]\x7b1,3\x7d\\.[0-9]\x7b1,3\x7d)",
  "((?:[A-Fa-f0-9]\x7b1,4\x7d::?)\x7b1,7\x7d[A-Fa-f0-9]\x7b1,4\x7d)",
  "((?:[0-9A-Fa-f]\x7b1,2\x7d-)\x7b7\x7d[0-9A-Fa-f]\x7b1,2\x7d"
    ++ "|(?:[0-9A-Fa-f]\x7b1,2\x7d:)\x7b7\x7d[0-9A-Fa-f]\x7b1,2\x7d"
    ++ "|(?:[0-9A-Fa-f]\x7b4\x7d\\.)\x7b3\x7d[0-9A-Fa-f]\x7b4\x7d)",
  "((?:[0-9A-Fa-f]\x7b1,2\x7d-)\x7b5\x7d[0-9A-Fa-f]\x7b1,2\x7d"
    ++ "|(?:[0-9A-Fa-f]\x7b1,2\x7d:)\x7b5\x7d[0-9A-Fa-f]\x7b1,2\x7d"
    ++ "|(?:[0-9A-Fa-f]\x7b4\x7d\\.)\x7b2\x7d[0-9A-Fa-f]\x7b4\x7d)",
  "([a-fA-F0-9]\x7b8\x7d-[a-fA-F0-9]\x7b4\x7d-[a-fA-F0-9]\x7b4\x7d-[a-fA-F0-9]\x7b4\x7d"
    ++ "-[a-fA-F0-9]\x7b12\x7d)"]

/-- Calls, words with a meaning, numbers, paths, quoted texts and links. -/
def innerParts : List String := [
  "([\\w.]*?)\\(",
  "\\b(True)\\b|\\b(False)\\b|\\b(None)\\b",
  "(\\.\\.\\.)",
  "((?<!\\w)(?:\\-?[0-9]+\\.?[0-9]*(?:e[-+]?\\d+?)?)"
    ++ "(?:[-+](?:[0-9]+\\.?[0-9]*(?:e[-+]?\\d+)?))?j)",
  "((?<!\\w)\\-?[0-9]+\\.?[0-9]*(?:e[-+]?\\d+?)?\\b|0x[0-9a-fA-F]*)",
  "(\\B(?:/[-\\w._+]+)*\\/)([-\\w._+]*)?",
  "(?<![\\\\\\w])(b?'''.*?(?<!\\\\)'''|b?'.*?(?<!\\\\)'"
    ++ "|b?\"\"\".*?(?<!\\\\)\"\"\"|b?\".*?(?<!\\\\)\")",
  "((?:file|https|http|ws|wss)://[-0-9a-zA-Z$_+!`(),.?/;:&=%#~@]*)"]

/-- The patterns whose groups stand out. Of the last one the first part that matches counts. -/
def patterns : List Pattern :=
  (outerParts ++ ["|".intercalate (addresses ++ innerParts)]).filterMap fun source =>
    (Pattern.read source).toOption

def styleName : String := "repr"

/-- Whether the width of a text may be another one than those of its segments together: it joins
characters, or selects how they are drawn. -/
def isJoined (chars : List Char) : Bool := chars.any fun c => c = '\u200d' || c = '\ufe0f'

/-- The styles on the parts of a text that stand out. -/
def spans (chars : List Char) : List Span :=
  (patterns.flatMap (·.groupsIn chars)).filterMap fun (start, stop) =>
    if start < stop then some ⟨start, stop, styleName⟩ else none

/-- A text whose parts that stand out have styles of their own, wherever that makes a difference. -/
def apply (t : Styled) : Styled :=
  if isJoined t.chars then { t with spans := spans t.chars ++ t.spans } else t

end Wirework.Highlight
