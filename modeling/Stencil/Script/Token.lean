import Stencil.Script.Number
import Stencil.Text.Identifier

/-!
The words, numbers, texts and marks of a script. White space and comments stand between tokens; a
token remembers whether a line ended before it and what stands behind it. Whether a slash divides or
begins a pattern only the grammar knows, so patterns are read on its demand, and so are the pieces
of a template.
-/

namespace Stencil.Script

/-- How the units of a text were written. Escapes that count in eights stand apart, since strict
code refuses them. -/
inductive Spelling where
  | plain
  | escaped
  | octal
  deriving DecidableEq, Repr

inductive Lexeme where
  /-- A word; `plain` unless some of it was spelled with escapes. -/
  | word (text : String) (plain : Bool)
  /-- A number; `legacy` when a zero stands before its other digits. -/
  | number (value : Float) (legacy : Bool)
  | text (value : Units) (spelling : Spelling)
  | mark (symbol : String)
  | finish
  /-- What no token begins with. -/
  | broken

structure Token where
  lexeme : Lexeme
  /-- Whether a line ended before it. -/
  newline : Bool
  /-- The text behind it. -/
  rest : List Char

def Spelling.join : Spelling → Spelling → Spelling
  | .plain, other => other
  | .escaped, .octal => .octal
  | first, _ => first

namespace Token

/-! ### Characters -/

def isLineEnd (c : Char) : Bool :=
  c = '\n' || c = '\r' || c.toNat = 0x2028 || c.toNat = 0x2029

def isWordStart (c : Char) : Bool :=
  c = '$' || c = '_' || Text.startsName c

def isWordPart (c : Char) : Bool :=
  c = '$' || Text.continuesName c

theorem isWordPart_of_isWordStart {c : Char} (starts : isWordStart c = true) :
    isWordPart c = true := by
  simp only [isWordStart, Bool.or_eq_true] at starts
  rcases starts with (dollar | line) | letter
  · simp [isWordPart, dollar]
  · simp_all [isWordPart, Text.continuesName]
  · simp [isWordPart, Text.continuesName_of_startsName letter]

/-- The marks, longer ones before their beginnings. -/
def marks : List (List Char) :=
  [">>>=", "...", "===", "!==", "**=", "<<=", ">>=", ">>>", "&&=", "||=", "??=", "=>", "==", "!=",
    "<=", ">=", "&&", "||", "??", "++", "--", "+=", "-=", "*=", "/=", "%=", "&=", "|=", "^=", "<<",
    ">>", "**", "\x7b", "\x7d", "(", ")", "[", "]", ";", ",", "<", ">", "+", "-", "*", "/", "%",
    "&", "|", "^", "!", "~", "?", ":", "=", ".", "\x60"].map String.toList

/-! ### Escapes -/

def hexLoop : Nat → Nat → List Char → Option (Nat × List Char)
  | 0, value, input => some (value, input)
  | count + 1, value, c :: rest => do hexLoop count (value * 16 + (← Hex.value? c)) rest
  | _ + 1, _, [] => none

/-- The number of a code point, in braces or as four digits, after `\u`. -/
def codePoint (input : List Char) : Option (Nat × List Char) :=
  match input with
  | '\x7b' :: rest =>
      let digits := rest.takeWhile (Number.isDigit 16)
      let value := Number.ofDigits 16 digits
      match rest.drop digits.length with
      | '\x7d' :: after => if digits.isEmpty || 0x10FFFF < value then none else some (value, after)
      | _ => none
  | _ => hexLoop 4 0 input

/-- The units of a code point; halves of pairs stand for themselves. -/
def unitsOf (n : Nat) : Units :=
  if n < 0x10000 then [UInt16.ofNat n] else Units.ofChar (Char.ofNat n)

def isOctal (c : Char) : Bool :=
  48 ≤ c.toNat && c.toNat ≤ 55

/-- What an escape stands for, after its backslash. The end of a line stands for nothing. -/
def escaped (input : List Char) : Option (Units × Spelling × List Char) :=
  match input with
  | [] => none
  | 'n' :: rest => some ([10], .escaped, rest)
  | 't' :: rest => some ([9], .escaped, rest)
  | 'r' :: rest => some ([13], .escaped, rest)
  | 'b' :: rest => some ([8], .escaped, rest)
  | 'f' :: rest => some ([12], .escaped, rest)
  | 'v' :: rest => some ([11], .escaped, rest)
  | 'x' :: rest =>
      (hexLoop 2 0 rest).map fun (value, rest) => ([UInt16.ofNat value], .escaped, rest)
  | 'u' :: rest => (codePoint rest).map fun (value, rest) => (unitsOf value, .escaped, rest)
  | '\r' :: '\n' :: rest => some ([], .plain, rest)
  | c :: rest =>
      if isLineEnd c then some ([], .plain, rest)
      else if c = '0' && !rest.head?.any Char.isDigit then some ([0], .escaped, rest)
      else if isOctal c then
        let width := if c.toNat ≤ 51 then 3 else 2
        let digits := ((c :: rest).take width).takeWhile isOctal
        some ([UInt16.ofNat (Number.ofDigits 8 digits)], .octal, (c :: rest).drop digits.length)
      else if c.isDigit then some (Units.ofChar c, .octal, rest)
      else some (Units.ofChar c, .escaped, rest)

/-! ### What stands between tokens -/

inductive Gap where
  | blank
  | lineComment
  | blockComment

/-- Passes over white space and comments: whether a line ended in them, and what follows. A block
comment has to end. -/
def skipGap : Gap → Bool → List Char → Option (Bool × List Char)
  | .blank, newline, '/' :: '/' :: rest => skipGap .lineComment newline rest
  | .blank, newline, '/' :: '*' :: rest => skipGap .blockComment newline rest
  | .blank, newline, c :: rest =>
      if Number.isSpace c then skipGap .blank (newline || isLineEnd c) rest
      else some (newline, c :: rest)
  | .lineComment, newline, c :: rest =>
      if isLineEnd c then skipGap .blank true rest else skipGap .lineComment newline rest
  | .blockComment, newline, '*' :: '/' :: rest => skipGap .blank newline rest
  | .blockComment, newline, c :: rest => skipGap .blockComment (newline || isLineEnd c) rest
  | .blockComment, _, [] => none
  | _, newline, [] => some (newline, [])

/-! ### Words and numbers -/

/-- A word with escapes in it; `held` are its characters so far, the last one first. -/
def wordLoop : Nat → List Char → List Char → Option (List Char × List Char)
  | 0, _, _ => none
  | fuel + 1, held, '\\' :: 'u' :: rest => do
      let (value, rest) ← codePoint rest
      let c := Char.ofNat value
      if (if held.isEmpty then isWordStart c else isWordPart c) then wordLoop fuel (c :: held) rest
      else none
  | _ + 1, _, '\\' :: _ => none
  | fuel + 1, held, c :: rest =>
      if isWordPart c then wordLoop fuel (c :: held) rest else some (held.reverse, c :: rest)
  | _ + 1, held, [] => some (held.reverse, [])

/-- A word at the front of a text that starts with one. -/
def word (input : List Char) : Option (Lexeme × List Char) :=
  let plain := input.takeWhile isWordPart
  let rest := input.drop plain.length
  if rest.head? = some '\\' then
    (wordLoop (rest.length + 1) plain.reverse rest).map fun (text, rest) =>
      (.word (String.ofList text) false, rest)
  else some (.word (String.ofList plain) true, rest)

/-- Digits at the front of a text, single underscores between them left out. -/
def spanSeparated (radix : Nat) : List Char → List Char × List Char
  | [] => ([], [])
  | c :: rest =>
      if Number.isDigit radix c then
        match rest with
        | '_' :: tail =>
            if tail.head?.any (Number.isDigit radix) then
              let (digits, after) := spanSeparated radix tail
              (c :: digits, after)
            else ([c], rest)
        | rest =>
            let (digits, after) := spanSeparated radix rest
            (c :: digits, after)
      else ([], c :: rest)

/-- A number at the front of a text that starts with a digit, or a point and a digit. No word
follows it directly. -/
def number (input : List Char) : Option (Lexeme × List Char) := do
  let plain (taken : Float × List Char) : Lexeme × List Char := (.number taken.1 false, taken.2)
  let decimal := (Number.takeDecimal (spanSeparated 10) input).map plain
  let (lexeme, rest) ←
    match input with
    | '0' :: c :: rest =>
        match Number.radixOf? c with
        | some radix =>
            match spanSeparated radix rest with
            | ([], _) => none
            | (digits, rest) => some (plain (Number.gather radix digits, rest))
        | none =>
            let digits := (c :: rest).takeWhile Char.isDigit
            if c = '_' then none
            else if digits.isEmpty then decimal
            else if digits.all isOctal then
              some (.number (Number.gather 8 digits) true, (c :: rest).drop digits.length)
            else
              (Number.takeDecimal (Number.spanDigits 10) input).map fun (value, rest) =>
                (.number value true, rest)
    | _ => decimal
  if rest.head?.any isWordPart then none else some (lexeme, rest)

/-! ### Texts, templates and patterns -/

/-- A text up to its quote; `held` are the pieces before, the last one first. -/
def textLoop (quote : Char) :
    Nat → Spelling → List Units → List Char → Option (Units × Spelling × List Char)
  | 0, _, _, _ => none
  | fuel + 1, spelling, held, input =>
      match input with
      | [] => none
      | '\\' :: rest => do
          let (units, how, rest) ← escaped rest
          textLoop quote fuel (spelling.join how) (units :: held) rest
      | c :: rest =>
          if c = quote then some (held.reverse.flatten, spelling, rest)
          else if c = '\n' || c = '\r' then none
          else textLoop quote fuel spelling (Units.ofChar c :: held) rest

/-- A piece of a template up to its end or, when the answer says so, up to the next expression. -/
def chunkLoop : Nat → List Units → List Char → Option (Units × Bool × List Char)
  | 0, _, _ => none
  | fuel + 1, held, input =>
      match input with
      | [] => none
      | '\x60' :: rest => some (held.reverse.flatten, false, rest)
      | '$' :: '\x7b' :: rest => some (held.reverse.flatten, true, rest)
      | '\\' :: rest => do
          let (units, how, rest) ← escaped rest
          if how = .octal then none else chunkLoop fuel (units :: held) rest
      | '\r' :: '\n' :: rest => chunkLoop fuel ([10] :: held) rest
      | '\r' :: rest => chunkLoop fuel ([10] :: held) rest
      | c :: rest => chunkLoop fuel (Units.ofChar c :: held) rest

def chunk (input : List Char) : Option (Units × Bool × List Char) :=
  chunkLoop (input.length + 1) [] input

/-- The body of a pattern up to its slash; a slash inside brackets does not end it. -/
def patternLoop : Nat → Bool → List Char → List Char → Option (List Char × List Char)
  | 0, _, _, _ => none
  | fuel + 1, inClass, held, input =>
      match input with
      | [] => none
      | '\\' :: c :: rest =>
          if isLineEnd c then none else patternLoop fuel inClass (c :: '\\' :: held) rest
      | c :: rest =>
          if isLineEnd c then none
          else if c = '/' && !inClass then some (held.reverse, rest)
          else
            let inClass := if c = '[' then true else if c = ']' then false else inClass
            patternLoop fuel inClass (c :: held) rest

/-- A pattern behind its first slash: its body, its flags, and what follows. -/
def pattern (input : List Char) : Option (List Char × List Char × List Char) := do
  let (body, rest) ← patternLoop (input.length + 1) false [] input
  let flags := rest.takeWhile isWordPart
  return (body, flags, rest.drop flags.length)

/-! ### Tokens -/

/-- What a text that starts with no white space starts with. -/
def scan (input : List Char) : Option (Lexeme × List Char) :=
  match input with
  | [] => some (.finish, [])
  | c :: rest =>
      if isWordStart c || c = '\\' then word input
      else if c.isDigit || (c = '.' && rest.head?.any Char.isDigit) then number input
      else if c = '\x22' || c = '\x27' then
        (textLoop c (rest.length + 1) .plain [] rest).map fun (units, spelling, rest) =>
          (.text units spelling, rest)
      else
        (marks.find? (fun mark => mark.isPrefixOf input)).map fun mark =>
          (.mark (String.ofList mark), input.drop mark.length)

def first (input : List Char) : Token :=
  match skipGap .blank false input with
  | none => ⟨.broken, false, []⟩
  | some (newline, input) =>
      match scan input with
      | some (lexeme, rest) => ⟨lexeme, newline, rest⟩
      | none => ⟨.broken, newline, []⟩

/-- A script without the line at its start that names a program to run it with. -/
def skipHead : List Char → List Char
  | '#' :: '!' :: rest => rest.dropWhile (fun c => !isLineEnd c)
  | source => source

end Token

end Stencil.Script
