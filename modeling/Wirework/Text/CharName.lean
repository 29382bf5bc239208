import Wirework.Number.Reading
import Wirework.Text.CharName.Ancient
import Wirework.Text.CharName.Asia
import Wirework.Text.CharName.Latin
import Wirework.Text.CharName.Pictures
import Wirework.Text.CharName.Symbols
import Wirework.Text.Table

/-!
# Names of characters

`CharName.code?` finds the character of a name, such as `EM DASH`. Most names stand in tables by code
point. An entry of a table keeps the first words of the name before it, as many as its digit says or,
without a digit, as many as that name kept itself. It adds words of its own. `+` counts on from the
number at the end of the name before it, and `@` goes on at another code point. Ideographs and Korean
syllables are named by rule.
-/

namespace Wirework.Text.CharName

/-! ## Names in tables -/

def tables : List String := [latin, asia, symbols, ancient, pictures]

/-- Frequent pieces of names, each after the character that stands for it in the tables. -/
def dictionary : String := "
 !RA #IC (LA .RI =LO aA, bE, c,2 d,3 eAN fO, gI, h,0 iEN jON kAR lT, mIN nAL qS, rRE sE| tAT vAM
 xST yOR zLE umG w,@1 ¡ED| ¢ER, ¤,SH ±,CH ¶DOT ·TWO ¹AP, »,SE ¿TER ÁAH, ÂSHE ÅSIX ÈSHA ÉSH, ÌUR,
 ÎTH, ÏOP, ÒNOT ÔEH, ÕNG, ÖER| ÚUM, ÛASH ÝPER ÞOLD âUP, ãESS åAY, é|UP ïCHE ñU,K òPRO öED, øAD,
 ùU,S üIP, āUN, Ć|MA ćUX, ĈU,N ĉTHE ČPLU ē|DI ĕTY, ĖIX, ĘFAC ĚESH ěCH, Ğ-2, ğ|TO ĠU,U ġTOP ĤOM,
 ĥISH ĨEM, ĪAX, ĳOUT ĹAIR ļ|CH ľUNG ĿU,T ňLIT ŋEL, ŎBOX œUSH ŔUP| ŘSUB ŚMED şAF, ŠACK Ţ|SH ŤUPP
 ťU,Y ŦU,M ŧU,H ŨU,D ūOUS ŰIL, ŹWAW źWAV ŻVER żU,P ŽTHA ƂPHA ƃOW, ƄOCK ƇIVE ƋEP, ƍDEL ƒ0,1 ƖULL
 ƙTH| ƚTAB ƟKHA ƠILL ƢEXT ƥAQ, Ʀ|PO ƧYP, ƨUNI ƭRU, ƱDAG ƲBET ƿTIL ǂMET ǄMEE ǉKEY ǋIEU ǌHER ǔCOM
 ǕBEL ǖAK, Ǜ|OF ǟU,E ǡTHO ǦOY, ǧOUR ǩOLL ǫIDE ǳCUR ǵBAS ǿYX, ȂUCK ȃU,Z ȄU,W ȅU,V ȆU,B ȇSPI ȊSID
 ȋROM ȎOUN ȏMID țTSA ȞSIM ȟSET ȥGER ȨCAP ȬSQU ȯQAF ȵHIT ȺBIT ȻAIL ȼ,L, ɃURU ɄTIK ɈTAG ɍQUE ɚCOP
 ɛBOW ɜBAG ɝADH ɢWID ɫIGH ɭHEA ɴWEL ɵUND ɶUM| ɿROK ϐROP ϑROW ~DOWN µFǧ ¼00h ÆTHr ËǛ| ß=W| ìTIj íLmE
 îFyM õHnF ûzFT þAzF ăOŻ ĄOPi ąCiT ĊT¢ ĎɭD ėHOOK ęEÎ ĜBk, ĝaNY ģSHa ĦIe| ħHǋ ĴOɵ ķDOl ĸAÕ ĽUÏ ŀ·|
 ŁTaT ņNOj ŇLjG ŌDÛ ŏBŠ ŐAm, ŗTȻ řSMn ũTǌ ŬOMEG ůLkG ŲIƋ ŴG!V ŸWEb ſSgS ƀÈD ƅNaN ƉHyN ƊHeD ƐCHa
 Ɠ-1,+ Ɣ¤O ƜR¡ ơHaH ƩT.P ƮPkT ƳeGL ƵaPH Ƹ¤U ƽġ| ƾƿD ǃMiT ǅLLa ǈKHa ǊJOm ǒǳL Ǚ80h ǚ¤I ǜ|m| ǠTURN
 ǢSIj ǯHɫ ǲDOUB ǴCjT ǸAAg ȐIn| ȑGRv ȒFĥ ȔC=S șWbW ȚŻS ȡj,P ȣMkK ȫTEi ȭSPAC ȮSOFT ȲMe, ȷDiT ȸǔP
 ȾZERO ȿWmD ɆTHIR ɐMOj ɑMaM ɓKAd ɔɫT ɖE± ɡYť ɮFƠ ɳWȵ ɺTi, ʊCIRC ʖSCHW ʚFOOT ʢWyD ʤSIGN ʮHk, ώrCT
 &|ʤ )û| oRɔ £|eD| ©,ř °BLŠ ½WIƙ ¾ɳE ÃEɔ Ð|ȣ àŇ| çĄ| êǯ| ôȣ| úřL ċȬk ďCROSS īaHa İSUÝ ŉzFl Ŋõ| ŖTjs
 ŞʊL ţ|Ɗ ŪPOmT ŭLɔ űIEľ ŵǔMA ƈmDEX ƑaLa ƛRu, ƶaFa ƹ|THs ƺ|ė ƻ|Fy| ǀŗ, ǁTŠ, ǆLmb ǓCì ǗaDa ǘaBa ǝWkDS
 ǞɵER Ǫm¿ Ǭ#n| Ǳµ| ǹaZa ǺƓ1 Ǿ|ABOV ȀVIRv ȉʤ| Ȗkϑ ȳLms ȹCOLj ɀVOɴ ɅɆD ɉxɿ ɏjEd ɕG!PH ɞ0¼ ɣULk| ɨă|
 ɩNUMER ɯïCK ɲʢ| ʀP(CE ʌBOkD ʍBE=W ʒɄEU ʓŘSE ʕSLÛ ʞeGUL ʥRUPEE Ͱ-ÈP ΕSCiD p|½ §ú| ®°| ²Ð, ÀFmn| Çʊz
 Ê|ɨ Ñɳs ÙSHyT| ÜÆs äE© èAì, óŚIUM ÷Aì| ÿ|Ȗ ĀǾE č=WÖ đBOTTOM ĒA© Ĕ|ď ĩŵ, įƾb ĵŭ| ĺ,ȉ Ńfß ŅNUMBER
 ƎCyNER ƣȹ, ǇKIYEOK ǍGrEK| ǥÝSj ǭHYPHi ȍPSILj ȦEQUnS ɁVISkG Ɋʕ, ɘDIGIT| ɼSOLIDU ʃMULTIP ʇ¶TED ʋBRŠE
 ʛɮER ʝʍ, ʡZIGZAG ʦ!ISED ʨPUNCTU ʫMEASUR ʭLiGTH ͽPrCED ΌFIRx| ΎEMPTY| ΏbZHb Γ¤m, ΘELLIPS ΙDIAGj
 ΝȼM,N ΫEXCLv ηWIGGLY *zTTÖ _ǲLs ¦|ʝ ¬Ǿb ÄȏDLs Í,1ȉ áÿ, æ|SYMBOL ëDIvjD ĂSYMBOL| Ģċs Ĭdɨ ĮǠ¡ ıċb
 ńfê ōŞb ŕT.Ƴ ųGrA¿ ŷʍc žɉb ƏȔ¡ ƘƩLs ƞNEUTRn ƪTHūe ƫSEǓ ƬSC.PT| ƴAĺ Ʒ-Ǉ ǏiDË ǐʇ| ǣQUk¿ ǮHɵrD ȈSuLs
 ȓD&, Ș|ȭb ȜS&, ɋÅȫ ɌROTtED ɧʦ| ɰAVAG!H ʂNEGtIV ʏēVǫ ʬLƄWIS ͱŀ¶ ͳTjGUb ͻȊDHv ͼS-SE.F ΊǫWAYS Δ»CjD
 ΖMƠIj ΗKşLv ΛAxE.S ΤTtWEEL ΦODIFIER κVvULIY ϒRRȼLL ¥æ, ×,Į ðŻT#n ĐŞ¡ ƗͱS ƯmITȐ ưΙn ǽĀc ȗkCHA#| Ȫēɕ
 ȰPOSIì ɒKtAKeA ɗ¶Lã| əCYRƠ# ɪKAPYEȎ ɾRĴ¡ ʁăLå ʘɍSì ʪMȎTAm ͶTEzPHj ͿPOxϐH Βn¿Nt ΚǳRiCY Ψ=GOȑ
 ΪG=TTn| θWAITu, Ϗ.SPOMi ³rȚ¡ ÓmŻT¡ łSEPkty Œð| ƆLIGtURs ƌ~ǝ ǤČS& ǶȖĎ ȕΛK, ȝSYL(BLs ȠŪu| ȢMΦ| ȶF!Ǔ|
 ɎPkiĉS ɬǫOɕ ɱdĮ ʅFƖ|Sġ ʜCjSjeT ͲTSaTģ ΆPA!ɕ ΑvÝSeD ΜeD!BmD άŋĨi, ίǔBmu δYEfYbf ĭpė Ķʅ, ŜHO.ZjTn
 ŝ¶¦ špķ Ŷί| ǷΒs Ǽpǒ ȧɘȾ ȱŅ|Ti ȴ#|* ȽhĐ ɟ-Ƞ ɽSEMIƣ ʉʊUMFzX ʐļA!C¿ ΈjsÃH ΉmD#ty, ΰBn=T|Ŏ βɝMeIYa
 ςIFĕÅTY ϓSbſfS Øɀ&| ýŜ| ƤAì² ǨjsǮ ǻĭ, ɸT.eGɣ ʎpɉ ʩjsǣ ΣĉMtǬ ρmDEPiȷ υbWbʮHO χǔMERCȐ ĻʎE őŒBk Ɓʨ÷
 ǰΪSġ ȩhŶ ɇTi|ƪD ɥʒlRǋL ɻİƬ ʆȦ&, ͷSSeGǇ, ΥOx|EQUnğ ζW.Tuţ οɑbMgMf Ĳ§* ƕpž ȁŒí ɦĢʋ ɹÜǣ ʔ§ō ΐʉ|AC
 ήDeDa_ «,Ĳ Ɲʘ² ȌrTROFzXƺ ɂŒɉ ʄûɟ ʑTyTOISsÂLL ʗrȚsɼ ʯDEΕER© ΩIFȫ,ɋ εYeMk|* σĦSYL(B#S| τħěKħKH
 όdDEZHȪ ɷƗ¦ ʧQUOTƤ ΧMUSǬĂ Ƽ|ȨITn|* ʙɎIqRɫ λTWiĕɆĕFO ǎΫƤ ΡTHIOP#|ȝ ξʩ,4õ ɠhȢ* γ1ŘǊ¡* ιVA.÷SEzCTy
 ύǩk&,Ýą ŮLtm|Ĳ πJpďED-ŗ ΠTɴVbɆȫ,µ ś*§ȨITn| ȤLtmƼ φʜ&|ŚȐ ϋe,JŰCŰCʮXe,JHe,H ωƣɽLã-THe&, ψĩǭ-MmUqĶɼq
 ɤTWfÆbµ,FIVbÅ»Vi,Ã,Nm ʣɤEc Οɤbɺ μʧŅ&,Dύ ϊC,D,bF,G,H,gJ,KΝ,fP,Q,R,qlȅ,W,X,Y,Z νƝχAlȤ Ξ|jEcΟ ʟa4B,ϊ
 έɘɏʣ ʈȧcjbɤ Ǒʈb1 ʠ0,ʈE αe,Ge,Dj,i,Vm,Zi,Te,m,Ke,(qȲNk,ȡk,Zʮ!bSe,Tk,āPʮKʮGHe,QkΓC"

def entries : List (List (List Char)) :=
  tables.map fun table => (entriesOf dictionary table).map String.toList

/-- A number in hexadecimal digits. -/
def ofHex (cs : List Char) : Nat := Number.ofDigits 16 (cs.filterMap (Number.digitValue? 16))

/-- A word with the number at its end raised, which keeps its zeros. -/
def raised (word : String) (n : Nat) : String :=
  let cs := word.toList
  let stem := cs.reverse.dropWhile (·.isDigit) |>.reverse
  let digits := cs.drop stem.length
  let number := (toString (Number.ofDigits 10 (digits.filterMap (Number.digitValue? 10)) + n)).toList
  String.ofList (stem ++ List.replicate (digits.length - number.length) '0' ++ number)

/-- The next names after one that ends in a number. -/
def counted (words : List String) (count : Nat) : List (List String) :=
  (List.range count).map fun i => words.dropLast ++ [raised (words.getLastD "") (i + 1)]

/-- The code point of the name that consists of the given words. `code` is that of the next entry,
`words` are those of the name before, and `kept` is how many of its words that name kept. -/
def search? (wanted : List String) (code kept : Nat) (words : List String) :
    List (List Char) → Option Nat
  | [] => none
  | [] :: rest => search? wanted code kept words rest
  | (c :: cs) :: rest =>
    if c = '@' then search? wanted (ofHex cs) kept words rest
    else
      let kept := if c.isDigit then ofHex [c] else kept
      let names :=
        if c = '+' then counted words (ofHex cs)
        else [words.take kept ++ Text.words (String.ofList (if c.isDigit then cs else c :: cs))]
      match names.idxOf? wanted with
      | some i => some (code + i)
      | none => search? wanted (code + names.length) kept (names.getLastD words) rest

/-- The code point of a name in capitals, if it stands in a table. -/
def listed? (name : String) : Option Nat :=
  let wanted := name.splitOn " "
  entries.findSome? (search? wanted 0 0 [])

/-! ## Names by rule -/

def after? (part : String) (cs : List Char) : Option (List Char) :=
  if part.toList.isPrefixOf cs then some (cs.drop part.toList.length) else none

/-- Characters that are named by their code points. -/
structure Family where
  /-- What stands before the code point. -/
  stem : String
  /-- The first and the last code points of its ranges. -/
  ranges : List (Nat × Nat)

def Family.has (f : Family) (code : Nat) : Bool := f.ranges.any fun r => r.1 ≤ code && code ≤ r.2

def ideographs : Family := ⟨"CJK UNIFIED IDEOGRAPH-", [(0x3400, 0x4DBF), (0x4E00, 0x9FFF),
  (0x20000, 0x2A6DF), (0x2A700, 0x2B738), (0x2B740, 0x2B81D), (0x2B820, 0x2CEA1), (0x2CEB0, 0x2EBE0),
  (0x30000, 0x3134A)]⟩

/-- Families whose names may be written in small letters. -/
def families : List Family := [
  ⟨"CJK COMPATIBILITY IDEOGRAPH-", [(0xF900, 0xFA6D), (0xFA70, 0xFAD9), (0x2F800, 0x2FA1D)]⟩,
  ⟨"KHITAN SMALL SCRIPT CHARACTER-", [(0x18B00, 0x18CD5)]⟩,
  ⟨"NUSHU CHARACTER-", [(0x1B170, 0x1B2FB)]⟩]

def isCapitalHex (c : Char) : Bool := c.isDigit || ('A'.toNat ≤ c.toNat && c.toNat ≤ 'F'.toNat)

def codeIn? (f : Family) (digits : List Char) : Option Nat :=
  let code := ofHex digits
  if (digits.length = 4 || digits.length = 5) && digits.all isCapitalHex && f.has code then some code
  else none

/-- The code point of a name in capitals that is made of a stem and the code point itself. -/
def derived? (cs : List Char) : Option Nat :=
  families.findSome? fun f => do
    let digits ← after? f.stem cs
    if digits.length = 5 && digits.head? = some '0' then none else codeIn? f digits

def leads : List String :=
  ["G", "GG", "N", "D", "DD", "R", "M", "B", "BB", "S", "SS", "", "J", "JJ", "C", "K", "T", "P", "H"]

def vowels : List String :=
  ["A", "AE", "YA", "YAE", "EO", "E", "YEO", "YE", "O", "WA", "WAE", "OE", "YO", "U", "WEO", "WE",
    "WI", "YU", "EU", "YI", "I"]

def tails : List String :=
  ["", "G", "GG", "GS", "N", "NJ", "NH", "D", "L", "LG", "LM", "LB", "LS", "LT", "LP", "LH", "M", "B",
    "BS", "S", "SS", "NG", "J", "C", "K", "T", "P", "H"]

/-- The place of the longest of some parts at the start of a text, and what follows it. -/
def longest? (parts : List String) (cs : List Char) : Option (Nat × List Char) :=
  (parts.zipIdx.filterMap fun (part, i) => (after? part cs).map fun rest => (i, rest)).foldl
    (fun best found =>
      match best with
      | none => some found
      | some b => if found.2.length < b.2.length then some found else some b)
    none

/-- The code point of a Korean syllable, which is spelled by its letters. -/
def syllable? (cs : List Char) : Option Nat := do
  let (lead, cs) ← longest? leads cs
  let (vowel, cs) ← longest? vowels cs
  let (tail, cs) ← longest? tails cs
  if cs.isEmpty then some (0xAC00 + (lead * vowels.length + vowel) * tails.length + tail) else none

/-- The code point of the character with a name. The case of letters does not matter, except in the
names of ideographs and of Korean syllables. -/
def code? (name : List Char) : Option Nat :=
  match after? "HANGUL SYLLABLE " name, after? ideographs.stem name with
  | some letters, _ => syllable? letters
  | none, some digits => codeIn? ideographs digits
  | none, none =>
    let capitals := name.map Char.toUpper
    (derived? capitals).or (listed? (String.ofList capitals))

end Wirework.Text.CharName
