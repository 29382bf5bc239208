import Wirework.Json.Reader
import Wirework.Sql.Basic
import Wirework.Template.Render

/-!
# Quoted texts and their readers

A text in generated code stands between quotes, in SQL with every quote doubled, in Rust with
backslashes before quotes and backslashes. Main statement: whatever follows the literal, a scanner of
the language reads back the text and stops where the literal ends (`read_quoted`). The scanners know
the whole grammar of their literals, also the escapes that are never written. What they make of one
written character is a lemma (`reads_doubled`, `reads_escaped`), and a text is read character by
character (`Scanner.Reads.flatMap`).
-/

namespace Wirework

/-! ## Scanners -/

/-- What a scanner makes of a character. -/
inductive Move (σ : Type) where
  /-- It belongs to the literal, and may complete a character of the text. -/
  | read (put : Option Char) (next : σ)
  /-- It is the last one of the literal. -/
  | last
  /-- The literal has ended before it. -/
  | past
  | refuse

/-- How literals are read, from a first state on. -/
structure Scanner (σ : Type) where
  start : σ
  move : σ → Char → Move σ
  /-- Whether the text may end here. -/
  mayEnd : σ → Bool

namespace Scanner

variable {σ : Type} {s : Scanner σ} {p q r : σ} {cs ds : List Char}

/-- The text that a literal stands for, and what follows the literal. -/
def run (s : Scanner σ) : σ → List Char → Option (List Char × List Char)
  | p, [] => if s.mayEnd p then some ([], []) else none
  | p, c :: rest =>
    match s.move p c with
    | .read put next => (run s next rest).map fun found => (put.toList ++ found.1, found.2)
    | .last => some ([], rest)
    | .past => some ([], c :: rest)
    | .refuse => none

/-- The text of the literal at the start of some code, and the code behind it. -/
def read (s : Scanner σ) (code : String) : Option (String × String) :=
  (s.run s.start code.toList).map fun found => (String.ofList found.1, String.ofList found.2)

/-- From one state to another, the characters are read as a part of the text. -/
def Reads (s : Scanner σ) (p : σ) (cs text : List Char) (q : σ) : Prop :=
  ∀ rest, s.run p (cs ++ rest) = (s.run q rest).map fun found => (text ++ found.1, found.2)

theorem Reads.nil : s.Reads p [] [] p := by
  intro rest
  simp

theorem Reads.append {text text' : List Char} (h : s.Reads p cs text q)
    (h' : s.Reads q ds text' r) : s.Reads p (cs ++ ds) (text ++ text') r := by
  intro rest
  rw [List.append_assoc, h, h', Option.map_map]
  simp [Function.comp_def]

theorem Reads.skip {c : Char} (h : s.move p c = .read none q) : s.Reads p [c] [] q := by
  intro rest
  simp only [List.singleton_append, run, h, Option.toList_none]

theorem Reads.put {c d : Char} (h : s.move p c = .read (some d) q) : s.Reads p [c] [d] q := by
  intro rest
  simp only [List.singleton_append, run, h, Option.toList_some]

/-- A text is read character by character if each one is read on its own. -/
theorem Reads.flatMap {write : Char → List Char} {text : List Char}
    (h : ∀ c ∈ text, s.Reads p (write c) [c] p) : s.Reads p (text.flatMap write) text p := by
  induction text with
  | nil => exact Reads.nil
  | cons c rest ih =>
    rw [List.flatMap_cons]
    exact (h c List.mem_cons_self).append (ih fun d hd => h d (List.mem_cons_of_mem c hd))

theorem read_of_reads (code : String) {text after : List Char} (h : s.Reads s.start cs text q)
    (hcode : code.toList = cs ++ ds) (hend : s.run q ds = some ([], after)) :
    s.read code = some (String.ofList text, String.ofList after) := by
  rw [read, hcode, h, hend]
  simp

end Scanner

/-! ## SQL -/

namespace Sql

inductive Place where
  | before | inside
  /-- Behind a quote, which ends the literal unless another one follows. -/
  | quote
  deriving DecidableEq

def move : Place → Char → Move Place
  | .before, c => if c = '\'' then .read none .inside else .refuse
  | .inside, c => if c = '\'' then .read none .quote else .read (some c) .inside
  | .quote, c => if c = '\'' then .read (some c) .inside else .past

/-- String literals of the standard: two quotes inside a literal stand for one. -/
def scanner : Scanner Place := ⟨.before, move, fun p => p = .quote⟩

theorem reads_doubled (c : Char) :
    scanner.Reads .inside (if c = '\'' then ['\'', '\''] else [c]) [c] .inside := by
  by_cases hc : c = '\''
  · subst hc
    have hfirst : scanner.Reads .inside ['\''] [] .quote := .skip rfl
    have hsecond : scanner.Reads .quote ['\''] ['\''] .inside := .put rfl
    exact hfirst.append hsecond
  · rw [if_neg hc]
    exact .put (if_neg hc)

/-- The scanner has read the literal when it meets anything but a quote. -/
theorem run_quote {t : List Char} (ht : t.head? ≠ some '\'') :
    scanner.run .quote t = some ([], t) := by
  cases t with
  | nil => rfl
  | cons c rest =>
    have hc : c ≠ '\'' := fun h => ht (congrArg some h)
    have hmove : scanner.move .quote c = .past := if_neg hc
    simp only [Scanner.run, hmove]

theorem read_stringLiteral (s : String) {t : String} (ht : t.toList.head? ≠ some '\'') :
    scanner.read (stringLiteral s ++ t) = some (s, t) := by
  have hopen : scanner.Reads .before ['\''] [] .inside := .skip rfl
  have htext : scanner.Reads .inside (escape s.toList) s.toList .inside :=
    .flatMap fun c _ => reads_doubled c
  have hclose : scanner.Reads .inside ['\''] [] .quote := .skip rfl
  have hread := Scanner.read_of_reads (stringLiteral s ++ t)
    ((hopen.append htext).append hclose) (by simp [stringLiteral]) (run_quote ht)
  simpa using hread

end Sql

/-! ## Rust -/

namespace Rust

/-- Where in a string literal a scanner stands. -/
inductive Place where
  | before | inside
  /-- Behind a backslash. -/
  | escape
  /-- Before the first digit of a character by its ASCII number, or before the second. -/
  | ascii (high : Option Nat)
  /-- Before the brace of a character by its code point. -/
  | brace
  /-- Inside the braces, behind some digits. -/
  | code (digits value : Nat)
  /-- Behind a line end that a backslash takes out, with the blanks that follow it. -/
  | joint
  deriving DecidableEq

/-- A character of a literal outside of escapes. Line ends are line feeds. -/
def moveInside (c : Char) : Move Place :=
  if c = '"' then .last
  else if c = '\\' then .read none .escape
  else if c = '\r' then .refuse
  else .read (some c) .inside

def moveEscape : Char → Move Place
  | 'n' => .read (some '\n') .inside
  | 'r' => .read (some '\r') .inside
  | 't' => .read (some '\t') .inside
  | '0' => .read (some '\x00') .inside
  | '\\' => .read (some '\\') .inside
  | '\'' => .read (some '\'') .inside
  | '"' => .read (some '"') .inside
  | 'x' => .read none (.ascii none)
  | 'u' => .read none .brace
  | '\n' => .read none .joint
  | _ => .refuse

/-- A character inside the braces of a code point, which has up to six digits. -/
def moveCode (digits value : Nat) (c : Char) : Move Place :=
  match Json.hexDigit? c with
  | some d => if digits < 6 then .read none (.code (digits + 1) (value * 16 + d)) else .refuse
  | none =>
    if digits = 0 then .refuse
    else if c = '_' then .read none (.code digits value)
    else if c = '\x7d' ∧ value.isValidChar then .read (some (Char.ofNat value)) .inside
    else .refuse

def move : Place → Char → Move Place
  | .before, c => if c = '"' then .read none .inside else .refuse
  | .inside, c => moveInside c
  | .escape, c => moveEscape c
  | .ascii none, c =>
    match Json.hexDigit? c with
    | some d => if d < 8 then .read none (.ascii (some d)) else .refuse
    | none => .refuse
  | .ascii (some high), c =>
    match Json.hexDigit? c with
    | some d => .read (some (Char.ofNat (high * 16 + d))) .inside
    | none => .refuse
  | .brace, c => if c = '\x7b' then .read none (.code 0 0) else .refuse
  | .code digits value, c => moveCode digits value c
  | .joint, c => if c = ' ' ∨ c = '\t' ∨ c = '\n' then .read none .joint else moveInside c

def scanner : Scanner Place := ⟨.before, move, fun _ => false⟩

/-- A character as it is written: no backslash that an earlier replacement has put there is met by
the later one. -/
def escaped (c : Char) : List Char := if c = '\\' ∨ c = '"' then ['\\', c] else [c]

theorem escape_eq_flatMap (cs : List Char) : escape cs = cs.flatMap escaped := by
  simp only [escape, Text.replaceChar, List.flatMap_assoc]
  congr 1
  funext c
  by_cases hslash : c = '\\'
  · subst hslash
    rfl
  · by_cases hquote : c = '"'
    · subst hquote
      rfl
    · simp [escaped, hslash, hquote]

theorem reads_escaped {c : Char} (hc : c ≠ '\r') :
    scanner.Reads .inside (escaped c) [c] .inside := by
  have hslash : scanner.Reads .inside ['\\'] [] .escape := .skip rfl
  by_cases hmark : c = '\\' ∨ c = '"'
  · have hmove : scanner.move .escape c = .read (some c) .inside := by
      obtain rfl | rfl := hmark <;> rfl
    rw [escaped, if_pos hmark]
    exact hslash.append (.put hmove)
  · have hmove : moveInside c = .read (some c) .inside := by
      simp only [not_or] at hmark
      simp [moveInside, hmark, hc]
    rw [escaped, if_neg hmark]
    exact .put hmove

theorem read_stringLiteral {s : String} (hs : '\r' ∉ s.toList) (t : String) :
    scanner.read (stringLiteral s ++ t) = some (s, t) := by
  have hopen : scanner.Reads .before ['"'] [] .inside := .skip rfl
  have htext : scanner.Reads .inside (escape s.toList) s.toList .inside := by
    rw [escape_eq_flatMap]
    exact .flatMap fun c hc => reads_escaped fun h => hs (h ▸ hc)
  have hclose : scanner.run .inside ('"' :: t.toList) = some ([], t.toList) := rfl
  have hread := Scanner.read_of_reads (stringLiteral s ++ t) (hopen.append htext)
    (by simp [stringLiteral]) hclose
  simpa using hread

end Rust

/-! ## Generated literals -/

/-- Quoted texts are read back, and nothing in them ends a literal early. -/
theorem read_quoted (s t : String) :
    (t.toList.head? ≠ some '\'' → ∃ quoted, Sql.literal (.string s) = some quoted ∧
        Sql.scanner.read (quoted ++ t) = some (s, t)) ∧
      ('\r' ∉ s.toList →
        Rust.scanner.read ((Rust.Expr.owned s).text ++ t) = some (s, ".to_string()" ++ t) ∧
        ∃ quoted, Template.Filter.stringLiteral.apply (.ofText s) = .ok (.ofText quoted) ∧
          Rust.scanner.read (quoted ++ t) = some (s, t)) := by
  refine ⟨fun ht => ⟨Sql.stringLiteral s, rfl, Sql.read_stringLiteral s ht⟩, fun hs => ⟨?_, ?_⟩⟩
  · rw [Rust.Expr.text, String.append_assoc]
    exact Rust.read_stringLiteral hs _
  · exact ⟨Rust.stringLiteral s, rfl, Rust.read_stringLiteral hs t⟩

/-- A text with both kinds of quotes and a backslash at its end, where the closing quote follows. -/
def quotes : String := "the \"folder's\" path, C:\\"

theorem read_quoted_quotes :
    (∃ quoted, Sql.literal (.string quotes) = some quoted ∧
        Sql.scanner.read (quoted ++ ", 1);") = some (quotes, ", 1);")) ∧
      Rust.scanner.read ((Rust.Expr.owned quotes).text ++ "\"") =
        some (quotes, ".to_string()" ++ "\"") :=
  ⟨(read_quoted quotes _).1 (by decide +kernel), ((read_quoted quotes _).2 (by decide +kernel)).1⟩

end Wirework
