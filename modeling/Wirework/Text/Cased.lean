import Wirework.Text.Table

/-!
# Cased, case-ignorable and uppercase characters

Properties of Unicode 14 that mappings and tests of case rest on.
-/

namespace Wirework.Text

/-!
## Cased and case-ignorable characters

The two properties of Unicode 14 that decide whether a capital sigma ends a word. A character that
has both is listed as case-ignorable only, because looking for the end of a word passes over it.
-/

/-- The cased characters that are not case-ignorable. -/
def casedRuns : List Run := Run.ofTable "
 41-5A 7-20 30 B 5 6-1C 2-20 2-C4 2-5 5-D4 2-1C C1-C4 3-4 4-6 2 7 2-4 2 2-15 2-54 2-8C 9-AE 2-27
 A-32 B18-B3D 2 6 3-2D 3-5 2A1-2F6 3-8 883-88B 8-32 3-5 41-6C 40-4C 2-23 66-17B 3-8 3-28 3-8 3-A
 2 2 2 2-20 3-37 2-8 2 4-6 2-8 4-7 3-8 5-11 6-8 2-8 106 5 3-C 2 4-8 7 2 2 2-5 2-7 5 3-6 6-A 5
 12-31 4-5 332-365 717-792 3-69 7-A 4-5 D-32 2 6 7913-7940 13-2E 87-D4 2-18 4-7 2-3C 6-7 2 2-6
 1C-1D 4 336-360 6-E 8-57 4F41-4F47 D-11 40A-423 7-20 4A6-4F5 61-84 5-28 75-7F 2-10 2-8 2-3 2-C
 2-10 2-8 2-3 6C4-6F6 E-40 BAE-BED 5561-55A0 6581-65D5 2-48 2-3 3 3-4 3-6 2-D 2 2-8 2-42 2-5 3-A
 2-8 2-1D 2-5 2-6 2 4-A 2-155 3-1B 2-1A 2-20 2-1A 2-20 2-1A 2-20 2-1A 2-20 2-1A 2-9 735-73E 2-15
 9E2-A25 7ED-806 7-20 7-20"

def caseIgnorableRuns : List Run := Run.ofTable "
 27 7 C 24 2 48 5 2 5 3-4 1F8-2B7 5-6 5 A-B 2 FC-102 D0 6 32-5E 2 2-3 2-3 2 2D C-11 B-15 2 24
 B-1F 11 66-6D 2-B 2-5 22 2 1F-39 5C-66 3B-45 5 3 19-30 2C-2E 2D 8-9 7-E 2A-63 38 2 5-C 5 4-A B-C
 E 10 3B 5-8 9 15-16 1B 3-4 3A 5-6 5-6 3-5 4 1F-20 4 C-D 3A 5-9 2-3 5 15-16 17-1C 2 3B 3 2-5 9
 8-9 C-D 1F 3E D 33 4 38 2-4 6-8 2-5 8-9 C-D 1E 3B 3 7 6-7 15-16 1D-1E 3A-3B 5-8 9 15-16 1E 49
 8-A 2 5B 3-9 C-14 63 3-B A 2-7 4B-4C 1C 2 2 38-45 2-6 2-3 6-10 2-25 A 67-6A 2-7 2-3 3-4 1A-1B
 5-7 11-14 E 3-4 7 10 5F 261-263 3B3-3B5 1E-1F 1F-20 1F-20 41-42 2-8 9 3-D 4 6 2E-32 34 42-43 23
 77-79 5-6 A 7-9 DC-DD 3 3B 2-8 2 2 3-A 7-10 3 28 9-27 32-35 31 2-6 2 6 29-31 D-E 21-24 3-4 2-4
 39 2-3 4 2-4 3B-42 3-4 41-46 53-55 2-E 2-8 5 7 4-5 33-71 E 23-87 1BE 2-4 C-E E-10 E-10 E-F D-11
 9-A B 3 3-7 32-36 2-B 2 E 11-1D 34-54 B8C-B8D 72-74 7E 10 61-80 30 1D6 25-28 4-8 6 5E-63 5E-60
 6F17 4E3-4E8 10F 63-66 2-B 2 1D-20 51-52 F-30 4F 18-1A 68-6A 4-5 9 4 5 1A-1B 6 98-99 1B-2C E
 27-2E 1A-24 2F-31 31 3-6 3-4 12 16-17 43-48 3-4 3-4 D 9 24 C 34 2-4 3-4 6-7 2 1C F-10 6-7 2
 65-69 A-C 7A 3 5 4F31 94-A4 23E-24D 4 D-1C 23 3 AA 8 7 C 24 2 30 2E-2F 44 16-18 202 E3 96-9A
 406-40B 2-2B 2-A 247-249 2-3 6-9 29-2B 5 A6-A7 23E-241 184-185 9A-A4 32-35 7C 37-45 2A 3-4 B-D
 32-35 3-4 3 5 B 33-35 25-29 2-9 3F D-E 35-3D B-E 3 60-62 3 2-3 7 A1 4-B 16-17 3A-3B 4 26-2C 4-8
 C4-CB 3-5 2 18 55-5A 2 5-6 2-3 EF-F2 7-8 2-3 1C-1D 56-5D 3 2-3 6B 2 3-8 2 66-68 3-6 2-6 104-10C
 2-3 101-102 2 5 91-94 3-4 5 21-2A 29-2E 3-6 9 A-F 3-5 2F-3B 2-3 197-19D 2-7 2 53-68 3-9 2-3 2-3
 7B-80 4 2-3 2-8 2 49-4A 4 2 15C-15D 153C-1544 36B8-36BC 3C-42 A-D 40C 40-50 41-42 2-3 400C-400F
 2-8 2-3 C9F-CA0 2-5 125D-128A 3-19 221-223 A-19 3-9 1F-22 95-97 7BC-7F2 5-36 9 F 17-1B 2-10
 551-557 2-12 3-9 2-3 2-6 106-113 171 3E-41 5E1-5E7 6E-75 AB0-AB4 C0C02 1F-7E 81-170"

/-- Whether a character is cased and not passed over. -/
def isCased (c : Char) : Bool := Run.covers casedRuns c

/-- Whether a character is passed over when looking for the end of a word. -/
def isCaseIgnorable (c : Char) : Bool := Run.covers caseIgnorableRuns c

/-!
## Uppercase letters

The characters of the derived property `Uppercase` of Unicode 14. Title-case digraphs are not among
them.
-/

def uppercaseRuns : List Run := [
  ⟨0x41, 0x5A, 1⟩, ⟨0xC0, 0xD6, 1⟩, ⟨0xD8, 0xDE, 1⟩, ⟨0x100, 0x136, 2⟩, ⟨0x139, 0x147, 2⟩,
  ⟨0x14A, 0x178, 2⟩, ⟨0x179, 0x17D, 2⟩, ⟨0x181, 0x182, 1⟩, ⟨0x184, 0x186, 2⟩, ⟨0x187, 0x189, 2⟩,
  ⟨0x18A, 0x18B, 1⟩, ⟨0x18E, 0x191, 1⟩, ⟨0x193, 0x194, 1⟩, ⟨0x196, 0x198, 1⟩, ⟨0x19C, 0x19D, 1⟩,
  ⟨0x19F, 0x1A0, 1⟩, ⟨0x1A2, 0x1A6, 2⟩, ⟨0x1A7, 0x1A9, 2⟩, ⟨0x1AC, 0x1AE, 2⟩, ⟨0x1AF, 0x1B1, 2⟩,
  ⟨0x1B2, 0x1B3, 1⟩, ⟨0x1B5, 0x1B7, 2⟩, ⟨0x1B8, 0x1B8, 1⟩, ⟨0x1BC, 0x1BC, 1⟩, ⟨0x1C4, 0x1C4, 1⟩,
  ⟨0x1C7, 0x1C7, 1⟩, ⟨0x1CA, 0x1CA, 1⟩, ⟨0x1CD, 0x1DB, 2⟩, ⟨0x1DE, 0x1EE, 2⟩, ⟨0x1F1, 0x1F1, 1⟩,
  ⟨0x1F4, 0x1F6, 2⟩, ⟨0x1F7, 0x1F8, 1⟩, ⟨0x1FA, 0x232, 2⟩, ⟨0x23A, 0x23B, 1⟩, ⟨0x23D, 0x23E, 1⟩,
  ⟨0x241, 0x243, 2⟩, ⟨0x244, 0x246, 1⟩, ⟨0x248, 0x24E, 2⟩, ⟨0x370, 0x372, 2⟩, ⟨0x376, 0x376, 1⟩,
  ⟨0x37F, 0x37F, 1⟩, ⟨0x386, 0x388, 2⟩, ⟨0x389, 0x38A, 1⟩, ⟨0x38C, 0x38E, 2⟩, ⟨0x38F, 0x391, 2⟩,
  ⟨0x392, 0x3A1, 1⟩, ⟨0x3A3, 0x3AB, 1⟩, ⟨0x3CF, 0x3CF, 1⟩, ⟨0x3D2, 0x3D4, 1⟩, ⟨0x3D8, 0x3EE, 2⟩,
  ⟨0x3F4, 0x3F4, 1⟩, ⟨0x3F7, 0x3F9, 2⟩, ⟨0x3FA, 0x3FA, 1⟩, ⟨0x3FD, 0x42F, 1⟩, ⟨0x460, 0x480, 2⟩,
  ⟨0x48A, 0x4C0, 2⟩, ⟨0x4C1, 0x4CD, 2⟩, ⟨0x4D0, 0x52E, 2⟩, ⟨0x531, 0x556, 1⟩, ⟨0x10A0, 0x10C5, 1⟩,
  ⟨0x10C7, 0x10C7, 1⟩, ⟨0x10CD, 0x10CD, 1⟩, ⟨0x13A0, 0x13F5, 1⟩, ⟨0x1C90, 0x1CBA, 1⟩, ⟨0x1CBD, 0x1CBF, 1⟩,
  ⟨0x1E00, 0x1E94, 2⟩, ⟨0x1E9E, 0x1EFE, 2⟩, ⟨0x1F08, 0x1F0F, 1⟩, ⟨0x1F18, 0x1F1D, 1⟩, ⟨0x1F28, 0x1F2F, 1⟩,
  ⟨0x1F38, 0x1F3F, 1⟩, ⟨0x1F48, 0x1F4D, 1⟩, ⟨0x1F59, 0x1F5F, 2⟩, ⟨0x1F68, 0x1F6F, 1⟩, ⟨0x1FB8, 0x1FBB, 1⟩,
  ⟨0x1FC8, 0x1FCB, 1⟩, ⟨0x1FD8, 0x1FDB, 1⟩, ⟨0x1FE8, 0x1FEC, 1⟩, ⟨0x1FF8, 0x1FFB, 1⟩, ⟨0x2102, 0x2102, 1⟩,
  ⟨0x2107, 0x2107, 1⟩, ⟨0x210B, 0x210D, 1⟩, ⟨0x2110, 0x2112, 1⟩, ⟨0x2115, 0x2115, 1⟩, ⟨0x2119, 0x211D, 1⟩,
  ⟨0x2124, 0x212A, 2⟩, ⟨0x212B, 0x212D, 1⟩, ⟨0x2130, 0x2133, 1⟩, ⟨0x213E, 0x213F, 1⟩, ⟨0x2145, 0x2145, 1⟩,
  ⟨0x2160, 0x216F, 1⟩, ⟨0x2183, 0x2183, 1⟩, ⟨0x24B6, 0x24CF, 1⟩, ⟨0x2C00, 0x2C2F, 1⟩, ⟨0x2C60, 0x2C62, 2⟩,
  ⟨0x2C63, 0x2C64, 1⟩, ⟨0x2C67, 0x2C6D, 2⟩, ⟨0x2C6E, 0x2C70, 1⟩, ⟨0x2C72, 0x2C72, 1⟩, ⟨0x2C75, 0x2C75, 1⟩,
  ⟨0x2C7E, 0x2C80, 1⟩, ⟨0x2C82, 0x2CE2, 2⟩, ⟨0x2CEB, 0x2CED, 2⟩, ⟨0x2CF2, 0x2CF2, 1⟩, ⟨0xA640, 0xA66C, 2⟩,
  ⟨0xA680, 0xA69A, 2⟩, ⟨0xA722, 0xA72E, 2⟩, ⟨0xA732, 0xA76E, 2⟩, ⟨0xA779, 0xA77D, 2⟩, ⟨0xA77E, 0xA786, 2⟩,
  ⟨0xA78B, 0xA78D, 2⟩, ⟨0xA790, 0xA792, 2⟩, ⟨0xA796, 0xA7AA, 2⟩, ⟨0xA7AB, 0xA7AE, 1⟩, ⟨0xA7B0, 0xA7B4, 1⟩,
  ⟨0xA7B6, 0xA7C4, 2⟩, ⟨0xA7C5, 0xA7C7, 1⟩, ⟨0xA7C9, 0xA7C9, 1⟩, ⟨0xA7D0, 0xA7D0, 1⟩, ⟨0xA7D6, 0xA7D8, 2⟩,
  ⟨0xA7F5, 0xA7F5, 1⟩, ⟨0xFF21, 0xFF3A, 1⟩, ⟨0x10400, 0x10427, 1⟩, ⟨0x104B0, 0x104D3, 1⟩,
  ⟨0x10570, 0x1057A, 1⟩, ⟨0x1057C, 0x1058A, 1⟩, ⟨0x1058C, 0x10592, 1⟩, ⟨0x10594, 0x10595, 1⟩,
  ⟨0x10C80, 0x10CB2, 1⟩, ⟨0x118A0, 0x118BF, 1⟩, ⟨0x16E40, 0x16E5F, 1⟩, ⟨0x1D400, 0x1D419, 1⟩,
  ⟨0x1D434, 0x1D44D, 1⟩, ⟨0x1D468, 0x1D481, 1⟩, ⟨0x1D49C, 0x1D49E, 2⟩, ⟨0x1D49F, 0x1D49F, 1⟩,
  ⟨0x1D4A2, 0x1D4A2, 1⟩, ⟨0x1D4A5, 0x1D4A6, 1⟩, ⟨0x1D4A9, 0x1D4AC, 1⟩, ⟨0x1D4AE, 0x1D4B5, 1⟩,
  ⟨0x1D4D0, 0x1D4E9, 1⟩, ⟨0x1D504, 0x1D505, 1⟩, ⟨0x1D507, 0x1D50A, 1⟩, ⟨0x1D50D, 0x1D514, 1⟩,
  ⟨0x1D516, 0x1D51C, 1⟩, ⟨0x1D538, 0x1D539, 1⟩, ⟨0x1D53B, 0x1D53E, 1⟩, ⟨0x1D540, 0x1D544, 1⟩,
  ⟨0x1D546, 0x1D546, 1⟩, ⟨0x1D54A, 0x1D550, 1⟩, ⟨0x1D56C, 0x1D585, 1⟩, ⟨0x1D5A0, 0x1D5B9, 1⟩,
  ⟨0x1D5D4, 0x1D5ED, 1⟩, ⟨0x1D608, 0x1D621, 1⟩, ⟨0x1D63C, 0x1D655, 1⟩, ⟨0x1D670, 0x1D689, 1⟩,
  ⟨0x1D6A8, 0x1D6C0, 1⟩, ⟨0x1D6E2, 0x1D6FA, 1⟩, ⟨0x1D71C, 0x1D734, 1⟩, ⟨0x1D756, 0x1D76E, 1⟩,
  ⟨0x1D790, 0x1D7A8, 1⟩, ⟨0x1D7CA, 0x1D7CA, 1⟩, ⟨0x1E900, 0x1E921, 1⟩, ⟨0x1F130, 0x1F149, 1⟩,
  ⟨0x1F150, 0x1F169, 1⟩, ⟨0x1F170, 0x1F189, 1⟩]

def isUppercase (c : Char) : Bool := Run.covers uppercaseRuns c

end Wirework.Text
