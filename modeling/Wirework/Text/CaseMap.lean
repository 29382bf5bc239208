import Wirework.Text.Table

/-!
# Case mappings of single characters

Full lower and upper case mappings of Unicode 14. Most mappings shift a whole run of characters by
one distance; the few characters whose mapping has several characters are listed apart.
-/

namespace Wirework.Text

/-- The characters of a run, with the distance from each to its mapping. -/
structure Shift where
  first : Nat
  last : Nat
  stride : Nat
  distance : Int

def Shift.run (s : Shift) : Run := ⟨s.first, s.last, s.stride⟩

/-- Capitals with their small letters next to them: runs of both in turn, and single ones. -/
def lowerPairs : List (Nat × Nat) := [
  (0x100, 0x12E), (0x132, 0x136), (0x139, 0x147), (0x14A, 0x176), (0x179, 0x17D), (0x182, 0x184),
  (0x1A0, 0x1A4), (0x1B3, 0x1B5), (0x1CB, 0x1DB), (0x1DE, 0x1EE), (0x1F2, 0x1F4), (0x1F8, 0x21E),
  (0x222, 0x232), (0x246, 0x24E), (0x370, 0x372), (0x3D8, 0x3EE), (0x460, 0x480), (0x48A, 0x4BE),
  (0x4C1, 0x4CD), (0x4D0, 0x52E), (0x1E00, 0x1E94), (0x1EA0, 0x1EFE), (0x2C67, 0x2C6B),
  (0x2C80, 0x2CE2), (0x2CEB, 0x2CED), (0xA640, 0xA66C), (0xA680, 0xA69A), (0xA722, 0xA72E),
  (0xA732, 0xA76E), (0xA779, 0xA77B), (0xA77E, 0xA786), (0xA790, 0xA792), (0xA796, 0xA7A8),
  (0xA7B4, 0xA7C2), (0xA7C7, 0xA7C9), (0xA7D6, 0xA7D8)]

def lowerNeighbours : List Nat := [
  0x187, 0x18B, 0x191, 0x198, 0x1A7, 0x1AC, 0x1AF, 0x1B8, 0x1BC, 0x1C5, 0x1C8, 0x23B, 0x241, 0x376,
  0x3F7, 0x3FA, 0x2183, 0x2C60, 0x2C72, 0x2C75, 0x2CF2, 0xA78B, 0xA7D0, 0xA7F5]

/-- Runs of capitals with their distance from the small letters. -/
def lowerRuns : List (Nat × Nat × Int) := [
  (0x41, 0x5A, 32), (0xC0, 0xD6, 32), (0xD8, 0xDE, 32), (0x189, 0x18A, 205), (0x1B1, 0x1B2, 217),
  (0x388, 0x38A, 37), (0x38E, 0x38F, 63), (0x391, 0x3A1, 32), (0x3A3, 0x3AB, 32),
  (0x3FD, 0x3FF, -130), (0x400, 0x40F, 80), (0x410, 0x42F, 32), (0x531, 0x556, 48),
  (0x10A0, 0x10C5, 7264), (0x13A0, 0x13EF, 38864), (0x13F0, 0x13F5, 8), (0x1C90, 0x1CBA, -3008),
  (0x1CBD, 0x1CBF, -3008), (0x1F08, 0x1F0F, -8), (0x1F18, 0x1F1D, -8), (0x1F28, 0x1F2F, -8),
  (0x1F38, 0x1F3F, -8), (0x1F48, 0x1F4D, -8), (0x1F68, 0x1F6F, -8), (0x1F88, 0x1F8F, -8),
  (0x1F98, 0x1F9F, -8), (0x1FA8, 0x1FAF, -8), (0x1FB8, 0x1FB9, -8), (0x1FBA, 0x1FBB, -74),
  (0x1FC8, 0x1FCB, -86), (0x1FD8, 0x1FD9, -8), (0x1FDA, 0x1FDB, -100), (0x1FE8, 0x1FE9, -8),
  (0x1FEA, 0x1FEB, -112), (0x1FF8, 0x1FF9, -128), (0x1FFA, 0x1FFB, -126), (0x2160, 0x216F, 16),
  (0x24B6, 0x24CF, 26), (0x2C00, 0x2C2F, 48), (0x2C7E, 0x2C7F, -10815), (0xFF21, 0xFF3A, 32),
  (0x10400, 0x10427, 40), (0x104B0, 0x104D3, 40), (0x10570, 0x1057A, 39), (0x1057C, 0x1058A, 39),
  (0x1058C, 0x10592, 39), (0x10594, 0x10595, 39), (0x10C80, 0x10CB2, 64), (0x118A0, 0x118BF, 32),
  (0x16E40, 0x16E5F, 32), (0x1E900, 0x1E921, 34)]

def lowerSingles : List (Nat × Int) := [
  (0x178, -121), (0x181, 210), (0x186, 206), (0x18E, 79), (0x18F, 202), (0x190, 203), (0x193, 205),
  (0x194, 207), (0x196, 211), (0x197, 209), (0x19C, 211), (0x19D, 213), (0x19F, 214), (0x1A6, 218),
  (0x1A9, 218), (0x1AE, 218), (0x1B7, 219), (0x1C4, 2), (0x1C7, 2), (0x1CA, 2), (0x1F1, 2),
  (0x1F6, -97), (0x1F7, -56), (0x220, -130), (0x23A, 10795), (0x23D, -163), (0x23E, 10792),
  (0x243, -195), (0x244, 69), (0x245, 71), (0x37F, 116), (0x386, 38), (0x38C, 64), (0x3CF, 8),
  (0x3F4, -60), (0x3F9, -7), (0x4C0, 15), (0x10C7, 7264), (0x10CD, 7264), (0x1E9E, -7615),
  (0x1FBC, -9), (0x1FCC, -9), (0x1FEC, -7), (0x1FFC, -9), (0x2126, -7517), (0x212A, -8383),
  (0x212B, -8262), (0x2132, 28), (0x2C62, -10743), (0x2C63, -3814), (0x2C64, -10727),
  (0x2C6D, -10780), (0x2C6E, -10749), (0x2C6F, -10783), (0x2C70, -10782), (0xA77D, -35332),
  (0xA78D, -42280), (0xA7AA, -42308), (0xA7AB, -42319), (0xA7AC, -42315), (0xA7AD, -42305),
  (0xA7AE, -42308), (0xA7B0, -42258), (0xA7B1, -42282), (0xA7B2, -42261), (0xA7B3, 928),
  (0xA7C4, -48), (0xA7C5, -42307), (0xA7C6, -35384)]

def lowerShifts : List Shift :=
  lowerPairs.map (fun e => ⟨e.1, e.2, 2, 1⟩) ++ lowerNeighbours.map (fun c => ⟨c, c, 1, 1⟩)
    ++ lowerRuns.map (fun e => ⟨e.1, e.2.1, 1, e.2.2⟩) ++ lowerSingles.map (fun e => ⟨e.1, e.1, 1, e.2⟩)
    ++ [⟨0x1F59, 0x1F5F, 2, -8⟩]

def lowerExpansions : List (Nat × List Nat) := [
  (0x130, [0x69, 0x307])]

/-- Shifts from the words of a table: a word with a sign is the distance of the runs after it. -/
def Shift.ofWords (distance : Int) : List String → List Shift
  | [] => []
  | word :: rest =>
    match word.toList with
    | '+' :: digits => ofWords (hexValue (String.ofList digits)) rest
    | '-' :: digits => ofWords (-hexValue (String.ofList digits)) rest
    | _ =>
      let r := Run.ofWord word
      ⟨r.first, r.last, r.stride, distance⟩ :: ofWords distance rest

/-- Mappings to several characters from a table with a comma after each: the character first. -/
def expansionsOf (table : String) : List (Nat × List Nat) :=
  (table.splitOn ",").filterMap fun entry =>
    match (words entry).map hexValue with
    | [] => none
    | code :: mapping => some (code, mapping)

def upperShifts : List Shift := Shift.ofWords 0 (words "
 -20 61-7A E0-F6 F8-FE 3B1-3C1 3C3-3CB 430-44F FF41-FF5A 118C0-118DF 16E60-16E7F +2E7 B5 +79 FF -1
 101:12F 133:137 13A:148 14B:177 17A:17E 183:185 188 18C 192 199 1A1:1A5 1A8 1AD 1B0 1B4:1B6 1B9
 1BD 1C5 1C8 1CB 1CE:1DC 1DF:1EF 1F2 1F5 1F9:21F 223:233 23C 242 247:24F 371:373 377 3D9:3EF 3F8
 3FB 461:481 48B:4BF 4C2:4CE 4D1:52F 1E01:1E95 1EA1:1EFF 2184 2C61 2C68:2C6C 2C73 2C76 2C81:2CE3
 2CEC:2CEE 2CF3 A641:A66D A681:A69B A723:A72F A733:A76F A77A:A77C A77F:A787 A78C A791:A793
 A797:A7A9 A7B5:A7C3 A7C8:A7CA A7D1 A7D7:A7D9 A7F6 -E8 131 -12C 17F +C3 180 +61 195 +A3 19A +82 19E
 37B-37D +38 1BF -2 1C6 1C9 1CC 1F3 -4F 1DD +2A3F 23F-240 +2A1F 250 +2A1C 251 +2A1E 252 -D2 253 -CE
 254 -CD 256-257 260 -CA 259 -CB 25B +A54F 25C +A54B 261 -CF 263 +A528 265 +A544 266 26A -D1 268
 -D3 269 26F +29F7 26B +A541 26C +29FD 271 -D5 272 -D6 275 +29E7 27D -DA 280 283 288 +A543 282
 +A52A 287 -45 289 -D9 28A-28B -47 28C -DB 292 +A515 29D +A512 29E +54 345 -26 3AC -25 3AD-3AF -1F
 3C2 -40 3CC 10CC0-10CF2 -3F 3CD-3CE -3E 3D0 -39 3D1 -2F 3D5 -36 3D6 -8 3D7 13F8-13FD -56 3F0 -50
 3F1 450-45F +7 3F2 1FE5 -74 3F3 -60 3F5 -F 4CF -30 561-586 2C30-2C5F +BC0 10D0-10FA 10FD-10FF
 -186E 1C80 -186D 1C81 -1864 1C82 -1862 1C83-1C84 -1863 1C85 -185C 1C86 -1825 1C87 +89C2 1C88 +8A04
 1D79 +EE6 1D7D +8A38 1D8E -3B 1E9B +8 1F00-1F07 1F10-1F15 1F20-1F27 1F30-1F37 1F40-1F45 1F51:1F57
 1F60-1F67 1FB0-1FB1 1FD0-1FD1 1FE0-1FE1 +4A 1F70-1F71 +56 1F72-1F75 +64 1F76-1F77 +80 1F78-1F79
 +70 1F7A-1F7B +7E 1F7C-1F7D -1C25 1FBE -1C 214E -10 2170-217F -1A 24D0-24E9 -2A2B 2C65 -2A28 2C66
 -1C60 2D00-2D25 2D27 2D2D +30 A794 -3A0 AB53 -97D0 AB70-ABBF -28 10428-1044F 104D8-104FB -27
 10597-105A1 105A3-105B1 105B3-105B9 105BB-105BC -22 1E922-1E943")

def upperExpansions : List (Nat × List Nat) := expansionsOf "
 DF 53 53, 149 2BC 4E, 1F0 4A 30C, 390 399 308 301, 3B0 3A5 308 301, 587 535 552, 1E96 48 331,
 1E97 54 308, 1E98 57 30A, 1E99 59 30A, 1E9A 41 2BE, 1F50 3A5 313, 1F52 3A5 313 300,
 1F54 3A5 313 301, 1F56 3A5 313 342, 1F80 1F08 399, 1F81 1F09 399, 1F82 1F0A 399, 1F83 1F0B 399,
 1F84 1F0C 399, 1F85 1F0D 399, 1F86 1F0E 399, 1F87 1F0F 399, 1F88 1F08 399, 1F89 1F09 399,
 1F8A 1F0A 399, 1F8B 1F0B 399, 1F8C 1F0C 399, 1F8D 1F0D 399, 1F8E 1F0E 399, 1F8F 1F0F 399,
 1F90 1F28 399, 1F91 1F29 399, 1F92 1F2A 399, 1F93 1F2B 399, 1F94 1F2C 399, 1F95 1F2D 399,
 1F96 1F2E 399, 1F97 1F2F 399, 1F98 1F28 399, 1F99 1F29 399, 1F9A 1F2A 399, 1F9B 1F2B 399,
 1F9C 1F2C 399, 1F9D 1F2D 399, 1F9E 1F2E 399, 1F9F 1F2F 399, 1FA0 1F68 399, 1FA1 1F69 399,
 1FA2 1F6A 399, 1FA3 1F6B 399, 1FA4 1F6C 399, 1FA5 1F6D 399, 1FA6 1F6E 399, 1FA7 1F6F 399,
 1FA8 1F68 399, 1FA9 1F69 399, 1FAA 1F6A 399, 1FAB 1F6B 399, 1FAC 1F6C 399, 1FAD 1F6D 399,
 1FAE 1F6E 399, 1FAF 1F6F 399, 1FB2 1FBA 399, 1FB3 391 399, 1FB4 386 399, 1FB6 391 342,
 1FB7 391 342 399, 1FBC 391 399, 1FC2 1FCA 399, 1FC3 397 399, 1FC4 389 399, 1FC6 397 342,
 1FC7 397 342 399, 1FCC 397 399, 1FD2 399 308 300, 1FD3 399 308 301, 1FD6 399 342,
 1FD7 399 308 342, 1FE2 3A5 308 300, 1FE3 3A5 308 301, 1FE4 3A1 313, 1FE6 3A5 342,
 1FE7 3A5 308 342, 1FF2 1FFA 399, 1FF3 3A9 399, 1FF4 38F 399, 1FF6 3A9 342, 1FF7 3A9 342 399,
 1FFC 3A9 399, FB00 46 46, FB01 46 49, FB02 46 4C, FB03 46 46 49, FB04 46 46 4C, FB05 53 54,
 FB06 53 54, FB13 544 546, FB14 544 535, FB15 544 53B, FB16 54E 546, FB17 544 53D"

/-- The mapping of one character under a table of shifts and a table of expansions. -/
def mapCase (shifts : List Shift) (expansions : List (Nat × List Nat)) (c : Char) : List Char :=
  match expansions.lookup c.toNat with
  | some cs => cs.map Char.ofNat
  | none =>
    match shifts.find? (·.run.has c) with
    | some s => [Char.ofNat (c.toNat + s.distance).toNat]
    | none => [c]

def lowerChar (c : Char) : List Char := mapCase lowerShifts lowerExpansions c

def upperChar (c : Char) : List Char := mapCase upperShifts upperExpansions c

end Wirework.Text
