import Wirework.Text.Table

/-!
# Printable characters and quoted text
-/

namespace Wirework.Text

/-!
## Printable characters

The characters of Unicode 14 outside the categories "other" and "separator", and the plain space.
Quoted text keeps them as they are and escapes all others.
-/

def printableRuns : List Run := Run.ofTable "
 20-7E 23-2E 2-2CB 3-8 5-B 2 2-15 2-18E 2-27 3-34 3-5 2-38 9-23 5-A 12-27 2-C1 2-31 3-3D 3-67
 F-49 3-33 3-11 2-1D 3 2-C 6-24 A-53 2-A2 2-9 3-4 3-18 2-8 2 4-7 3-B 3-4 3-6 9 5-6 2-6 3-1B 3-5
 2-7 5-6 3-18 2-8 2-3 2-3 2-3 3 2-6 5-6 3-5 4 8-B 2 8-18 B-D 2-A 2-4 2-17 2-8 2-3 2-6 3-C 2-4 2-4
 3 10-13 3-E 8-E 2-4 2-9 3-4 3-18 2-8 2-3 2-6 3-B 3-4 3-5 8-A 5-6 2-6 3-14 B-C 2-7 4-6 2-5 4-5 2
 2-3 4-5 4-6 4-F 5-9 4-6 2-5 3 7 F-23 6-12 2-4 2-18 2-11 3-B 2-4 2-5 8-9 2-4 3 3-6 3-C 8-1D 2-4
 2-18 2-B 2-6 3-B 2-4 2-5 8-9 7-8 2-5 3-C 2-3 E-1A 2-4 2-34 2-4 2-7 5-14 3-1C 2-4 2-13 4-1B 2-A 2
 3-9 4 5-A 2 2-9 7-10 3-5 D-46 5-21 26-27 2 2-6 2-19 2 2-18 3-7 2 2-7 3-C 3-6 21-68 2-25 5-2B
 2-25 2-10 2-E 26-EB 2 6 3-17B 2-5 3-9 2 2-5 3-2B 2-5 3-23 2-5 3-9 2 2-5 3-11 2-3A 2-5 3-45 3-22
 4-1D 7-5C 3-8 3-282 2-1D 4-5C 8-1D A-21 A-1D D-19 2-4 2-3 D-6A 3-C 7-10 7-14 2-C 7-5F 8-32 6-4B
 B-29 2-D 5-10 5 4-2D 3-7 C-37 5-1E 7-11 4-41 3-43 2-1E 3-D 7-10 7-14 3-21 32-7E 4-32 2-75 9-44
 4-12 4-3F 8-32 3-D 9-33 6-21B 3-8 3-28 3-8 3-A 2 2 2 2-20 3-37 2-10 2-F 3-8 2-14 3-5 2-A 12-29
 9-37 12-13 3-1D 2-E 4-24 10-30 10-9B 5-29B 1A-24 16-729 3-22 2-15E 6-32 2 6 3-3A 8-9 F-26 A-10
 2-8 2-8 2-8 2-8 2-8 2-8 2-8 2-7F 23-3C 2-5A D-E2 1B-26 6-44 2-57 3-69 6-30 2-5F 2-55 D-3B 2-726E
 4-3A A-165 15-CC 9-D3 6-7 2 2-6 19-53 4-D 7-3E 9-4E 9-14 7-7A C-29 4-51 2-C 5-25 2-38 A-17 3-C
 3-69 19-34 B-10 3-8 3-8 A-10 2-8 2-3D 5-82 3-C 7-2BAA D-23 5-35 2105-2272 3-6C 27-2D D-11 6-1F
 2-6 2 2-3 2-3 2-7E 11-1CD 3-38 8 21-4A 7-39 2-14 2-5 5-9 2-88 5-C2 4-9 3-8 3-8 3-5 4-A 2-8 E-F
 3-E 2-1B 2-14 2-3 2-10 3-10 23-9D 6-8 5-31 4-5B 2-E 4 30-5D 83-9F 4-34 10-2B 5-28 A-27 6-30 6-23
 2-26 5-12 2B-C8 3-C 7-2A 5-28 5-2C 9-3C C-17 2-10 2-8 2-3 2-C 2-10 2-8 2-3 44-17A A-1F B-12
 19-1E 2-2B 2-A 46-4B 3 2-2D 2-3 4 3-19 2-49 9-11 31-43 2-3 6-26 4-1E 6 41-78 5-18 3-34 2-3 6-D
 2-4 2-1E 3-5 5-E 8-10 8-47 21-47 5-10 A-3F 4-20 3-1D 6-1F 8-B D-13 51-99 38-6A E-40 8-35 9-12
 127-145 2-2B 2-4 3-4 4F-76 9-32 17-30 27-42 15-2B A-57 5-28 A-47 2-6 E-26 8-11 7-3B 2-13 9-2F
 A-69 2-15 C-1D 2-2D 42-48 2 2-5 2-10 2-C 7-41 6-F 7-A 2-9 3-4 3-18 2-8 2-3 2-6 2-B 3-4 3-5 3 7
 6-C 3-9 4-8 8C-E7 2-6 1F-66 9-12 A7-DC 3-28 23-67 C-15 7-13 14-4D 7-10 37-51 3-11 5-1B BA-F5
 65-B7 D-14 3 3-A 2-3 2-1F 2-3 3-E A-13 47-4E 3-30 3-D 1C-63 9-5B E-56 108-110 2-2E 2-F B-27 4-23
 3-18 2-F 4A-50 2-3 2-2D 4 2-3 2-A 9-12 7-C 2-3 2-26 2-3 2-7 8-11 137-14F B8 10-41 E-3A8 67-D5
 2-6 C-CF A4D-AAF E-43C FD2-1218 21BA-23F2 8-26 2-B 5-55 2-B 7-24 3-8 B-50 B-14 2-8 2-16 6-18
 2B1-30B 66-B0 5-3D 8-18 41-45 C-D F-1806 9-4DE 2B-33 22E8-22EB 2-8 2-3 2-124 2E-30 12-15 9-194
 905-96F 6-12 4-C 8-11 3-6 1261-128E 3-19 A-7D 3D-132 B-31 3-4C 9-78 16-5B 9B-AE D-63 A-22 88-DC
 2-48 2-3 3 3-4 3-6 2-D 2 2-8 2-42 2-5 3-A 2-8 2-1D 2-5 2-6 2 4-A 2-155 3-126 3-2C0 10-14 2-10
 451-46F E2-E8 2-12 3-9 2-3 2-6 D6-102 4-11 3-C 5-6 141-15F 12-4B 6 4E1-4E7 2-5 2-3 2-10 2-C6
 3-12 2A-75 5-E 5-6 312-355 4D-89 C3-C6 2-1C 2-3 2 3 2-B 2-5 2 2 7 5 2 2 2-4 2-3 2 3 2 2 2 2 2-3
 2 3-6 2-8 2-5 2-5 2 2-B 2-12 6-8 2-6 2-12 35-36 10F-13A 5-68 D-1B 3-11 2-10 2-26 B-B8 39-55 E-39
 5-D 8-9 F-14 9B-472 6-15 4-10 4-77 D-65 8-13 5 10-1B 5-3C 9-12 7-2E 9-26 3-4 4F-1A2 D-1A 3-7 4-8
 4-A A-26 4-E 6-B B-14 7-E 9-F A-9C 2-38 26-2F 407-AAE6 21-1059 8-E5 3-1684 F-1D3F C20-E3D
 5E3-192D AEDB6-AEEA5"

def isPrintable (c : Char) : Bool := Run.covers printableRuns c

/-!
## Quoted text

Text as it is shown inside messages about values: in single quotes, or in double quotes if it holds
a single quote and no double quote. What is not printable is escaped by its code point.
-/

/-- A number in lower-case hexadecimal digits, with zeros up to a width. -/
def hex (width n : Nat) : List Char :=
  let ds := Nat.toDigits 16 n
  List.replicate (width - ds.length) '0' ++ ds

def quoteChar (quote c : Char) : List Char :=
  if c = quote ∨ c = '\\' then ['\\', c]
  else if c = '\n' then ['\\', 'n']
  else if c = '\r' then ['\\', 'r']
  else if c = '\t' then ['\\', 't']
  else if isPrintable c then [c]
  else if c.toNat < 0x100 then '\\' :: 'x' :: hex 2 c.toNat
  else if c.toNat < 0x10000 then '\\' :: 'u' :: hex 4 c.toNat
  else '\\' :: 'U' :: hex 8 c.toNat

def quoted (s : String) : String :=
  let cs := s.toList
  let quote := if cs.contains '\'' && !cs.contains '"' then '"' else '\''
  String.ofList (quote :: cs.flatMap (quoteChar quote) ++ [quote])

end Wirework.Text
