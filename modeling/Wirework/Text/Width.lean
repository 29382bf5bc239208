import Wirework.Text.Table

/-!
# Width of characters

How many columns of a terminal a character of Unicode 17 takes. `charWidth` is two for wide and
full-width characters, and zero for controls, marks, formatting characters and other characters that
have no picture of their own.
-/

namespace Wirework.Text

/-- The characters that take two columns. -/
def wideRuns : List Run := Run.ofTable "
 1100-115F 11BB-11BC E-F BF-C2 4 3 20A-20B 16-17 1B-22 11-1C 2C B-10 4 E 9-A 12-13 6-7 9 6 16 8-9
 2 5 3 8 5-6 1D 24 2 5-7 2 3E-40 19 F 35C-35D 34 5 32B-344 2-5A D-E2 1B-54 7-15 3-58 5-69 6-30
 2-34 2-2B 2-57 A-39 2-29 9-7245 4-3A 49A-4B6 284-2E27 215D-235C 311-31A 17-39 2-14 2-5 96-F5
 80-86 6FFA-6FFD F-13 A-1CDF 2A-49 62-D4 21FE-2201 2-8 2-3 2-124 10 1E-20 3 F-12 9-194 2005-205B
 A-20 1C8E CB BF 3-C 66-68 E-39 5-D 8-9 F-14 9B-BB D-15 2-47 2-17 D-37 5-9 D-1D 4 4-6 6-44 2 2-BC
 3-41 E-11 2-19 13 1B-1C E 57-AB 31-76 7 4-6 3-6 4-7 C-D 8-10 E4-EF 5 11C-14A 2-B 2-BA 71-7D 4-E
 4-3C 2 5-14 3-E 5-E 508-10505 3-10000"

/-- The characters that take no column: controls, marks, formatting characters, separators of lines,
medial and final letters of Hangul, skin tones, and code points that are to be ignored by default. The
soft hyphen and the initial filler of Hangul are no such characters. -/
def zeroRuns : List Run := Run.ofTable "
 0-1F 60-80 261-2D0 114-11A 108-134 2 2-3 2-3 2 49-53 2 2F-43 11 66-6C 3-8 3-4 2-5 24 1F-39 5C-66
 3B-43 A 19-1C 2-A 2-4 2-6 2C-2E 3C-44 2B-42 2-22 37-39 2-13 2-8 B-C 1E-20 39 2-8 3-4 3-5 A B-C
 1B 3-5 39 2-6 5-6 3-5 4 1F-20 4 C-E 39 2-9 2-4 2-4 15-16 17-1C 2-4 39 2-8 3-4 3-5 8-A B-C 1F
 3C-40 4-6 2-5 A 29-2D 38 2-8 2-4 2-5 8-9 C-D 1E-20 39 2-8 2-4 2-5 8-9 C-D 10 D-10 38-39 2-8 2-4
 2-5 A B-C 1E-20 47 5-A 2 2-9 13-14 3E 3-9 D-14 63 3-B C-12 4A-4B 1C 2 2 5-6 32-45 2-3 6-10 2-25
 A 65-78 18-1B 5-7 2-4 3-9 4-7 E-19 2 B-E C3-162 15E-160 3B3-3B6 1D-1F 1E-1F 1F-20 41-60 A 2E-32
 76-77 23 77-82 5-10 DC-E0 3A-43 2-1E 3 31-5E 3-E 15-19 30-40 27-2F D-F 1F-2B 39-46 31-44 99-9B
 2-16 5 7 3-5 C7-106 20C-210 19-1F 32-41 61-81 BFF-C01 8E 61-80 22B-230 6A-6B CA 750B-750E 2-B
 21-22 51-52 111 4 5 18-1C 5 54-55 33-44 1B-2C E 27-2E 1A-26 2D-30 30-3D 25 44-51 D 9-A 2E-30 33
 2-4 3-4 6-7 2 2A-2E 6-7 ED-F4 2-3 2BC3-2C12 231F 2E2-2F1 11-20 D0 A1 50-5B 202 E3 96-9A 687-689
 2-3 6-9 29-2B 5 A6-A7 23E-241 42-46 13E-13F 4E-53 47-51 32-35 7B-7D 36-44 2A 3-4 B-E 2E-38 8
 3E-40 25-32 11-12 2D D-F 31-3E 9-C 2-3 5D-68 7 3 9E-A9 16-19 38-39 2-8 3-4 3-5 A B-C 3-9 4-8
 44-4C 2 3 2-5 2-6 2 F-10 53-64 18 52-65 EC-F2 3-B 1C-1D 53-63 6B-77 66-74 101-10F F6-FB 2-3 3-6
 2 2-3 8E-94 3-9 4 1D-26 29-2F 2-5 9 A-14 2F-3E C7-CE C8-CF 2-9 53-68 2-F 7B-80 4 2-3 2-8 2 43-47
 2-3 2-6 15C-15F A-B 2 31-37 4-8 18 14D6-14E6 7-15 2CC9-2CDA 9C1-9C5 3C-42 419 2-38 8-B 52 C-D
 4CAC-4CAD 2-5 125D-128A 3-19 21F-223 4-19 3-9 1F-22 95-97 7BC-7F2 5-36 9 F 17-1B 2-10 551-557
 2-12 3-9 2-3 2-6 65 A1-A7 178 3E-41 1FD-200 FF-100 F4 3 8-9 6 1DB-1E1 6E-74 AB1-AB5 C0C01-C1C00"

/-- The characters that take one column as text and two as a picture. -/
def picturableRuns : List Run := Run.ofTable "
 23 7 6-F 70 5 1F8E D D9 17 5B-60 10-11 17E A7 1E-20 2-3 6-8 C8 E8-E9 B A 3B-3C 4-8 A 3 7 5 3 2-3
 3 4 4-5 9-B 6 2 1D-1E 3 2-3 2 13 3 14 2-5 2 2-3 4 7 9-A 17 7 2 2 16 7-8 3 3-5 9 6-7 3-4 2 3 2 2
 7 4 12-13 10 3 1C-1D 3D 193-194 1D0-1D2 1C669-1C66A D-E 1A2 3-B A 47 19-1A 2-4 3-4 2C-2F 6-11 14
 2 2 48 2 BC 4C-4D 25-26 3-9 E 3-6 3 15 3 9-A A 6-8 D-F 9-B 3 2 5 7 4 7 D1 2-4 11-16 4 7 3"

/-- The columns that a character takes by itself. -/
def charWidth (c : Char) : Nat :=
  if 0x20 ≤ c.toNat && c.toNat < 0x7F then 1
  else if Run.covers zeroRuns c then 0
  else if Run.covers wideRuns c then 2 else 1

/-- Whether a character is one column wider as a picture than as text. -/
def isPicturable (c : Char) : Bool := Run.covers picturableRuns c

end Wirework.Text
