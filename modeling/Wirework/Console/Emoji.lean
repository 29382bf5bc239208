import Wirework.Console.EmojiNames
import Wirework.Text.Case

/-!
# Emoji codes

A name between colons, such as `:fire:`, stands for an emoji. `Emoji.replace` puts the emoji in the
place of the code; what is no name of an emoji stays as it is.
-/

namespace Wirework.Emoji

/-- The rest of a code up to its second colon, and what follows. A code holds no white space. -/
def code? (acc : List Char) : List Char → Option (List Char × List Char)
  | [] => none
  | c :: rest =>
    if c = ':' then some (acc.reverse, rest)
    else if Text.isBlank c then none
    else code? (c :: acc) rest

def without? (ending : String) (code : List Char) : Option (List Char) :=
  if ending.toList.isSuffixOf code then some (code.take (code.length - ending.toList.length))
  else none

/-- The emoji of a code. An ending asks for the emoji as a picture or as text. -/
def ofCode? (code : List Char) : Option (List Char) :=
  let find := fun (name : List Char) (selector : List Char) =>
    (ofName? (Text.lower (String.ofList name))).map fun emoji => emoji.toList ++ selector
  match without? "-emoji" code, without? "-text" code with
  | some name, _ => find name ['\ufe0f']
  | none, some name => find name ['\ufe0e']
  | none, none => find code []

/-- Replaces the codes of a text; `fuel` is a bound on its length. -/
def replaceFrom : Nat → List Char → List Char
  | 0, cs => cs
  | _, [] => []
  | fuel + 1, c :: rest =>
    match if c = ':' then code? [] rest else none with
    | some (code, after) =>
      (ofCode? code).getD (':' :: code ++ [':']) ++ replaceFrom fuel after
    | none => c :: replaceFrom fuel rest

def replace (cs : List Char) : List Char := replaceFrom cs.length cs

end Wirework.Emoji
