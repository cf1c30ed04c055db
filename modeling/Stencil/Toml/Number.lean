import Stencil.Decimal.Literal

/-!
Numbers and moments. Each is one word, or, for a date and a time with a space between them, two; the
word has to suit one of the forms as a whole.
-/

namespace Stencil.Toml

def isWordChar (c : Char) : Bool :=
  c.isAlphanum || c = '+' || c = '-' || c = '_' || c = '.' || c = ':'

/-! ### Numbers -/

def areGrouped (isDigit : Char → Bool) : List Char → Bool
  | [] => false
  | [c] => isDigit c
  | c :: '_' :: rest => isDigit c && areGrouped isDigit rest
  | c :: rest => isDigit c && areGrouped isDigit rest

def afterSign : List Char → List Char
  | '+' :: rest => rest
  | '-' :: rest => rest
  | word => word

/-- A whole number without a sign, which may not begin with a needless zero. -/
def isWhole (word : List Char) : Bool :=
  areGrouped Char.isDigit word && (word.head? != some '0' || word.length = 1)

def ungrouped (word : List Char) : List Char :=
  word.filter (fun c => c != '_')

def digitValue (c : Char) : Nat :=
  if c.isDigit then c.toNat - 48 else (c.toLower.toNat - 87)

/-- Whether digits of a base stand for a number of at most 63 bits. -/
def isBased (base : Nat) (word : List Char) : Bool :=
  let isDigit (c : Char) : Bool :=
    (c.isDigit || ('a' ≤ c.toLower && c.toLower ≤ 'f')) && digitValue c < base
  areGrouped isDigit word
    && (ungrouped word).foldl (fun n c => n * base + digitValue c) 0 < Nat.pow 2 63

/-- Whether a word is an integer of 64 bits. -/
def isInteger : List Char → Bool
  | '0' :: 'x' :: rest => isBased 16 rest
  | '0' :: 'o' :: rest => isBased 8 rest
  | '0' :: 'b' :: rest => isBased 2 rest
  | word =>
      let value := Decimal.Literal.ofDigits (ungrouped (afterSign word))
      isWhole (afterSign word)
        && (if word.head? = some '-' then value ≤ Nat.pow 2 63 else value < Nat.pow 2 63)

/-- Whether the letters of an exponent have grouped digits after them. -/
def isExponent : List Char → Bool
  | c :: rest => (c = 'e' || c = 'E') && areGrouped Char.isDigit (afterSign rest)
  | [] => false

/-- Whether a word is a number with a fraction, an exponent, or both, or one of the special ones. A
positive one has to be finite. -/
def isDecimal (word : List Char) : Bool :=
  let unsigned := afterSign word
  let (whole, rest) := unsigned.span (fun c => c.isDigit || c = '_')
  let isForm :=
    match rest with
    | '.' :: tail =>
        let (fraction, rest) := tail.span (fun c => c.isDigit || c = '_')
        areGrouped Char.isDigit fraction && (rest.isEmpty || isExponent rest)
    | rest => isExponent rest
  unsigned = ['i', 'n', 'f'] || unsigned = ['n', 'a', 'n']
    || (isWhole whole && isForm
      && (word.head? = some '-'
        || (Decimal.Literal.read? (ungrouped unsigned)).any (fun literal => !literal.overflows)))

/-! ### Moments -/

/-- A number of so many digits, and the rest of the word. -/
def takeNumber (count : Nat) (word : List Char) : Option (Nat × List Char) :=
  let digits := word.take count
  if digits.length = count && digits.all Char.isDigit then
    some (Decimal.Literal.ofDigits digits, word.drop count)
  else none

def daysOf (year month : Nat) : Nat :=
  if month = 2 then
    (if year % 4 = 0 && (year % 100 != 0 || year % 400 = 0) then 29 else 28)
  else if month ∈ [4, 6, 9, 11] then 30
  else 31

def afterDate (word : List Char) : Option (List Char) := do
  match ← takeNumber 4 word with
  | (year, '-' :: rest) =>
      match ← takeNumber 2 rest with
      | (month, '-' :: rest) =>
          let (day, rest) ← takeNumber 2 rest
          if 1 ≤ month && month ≤ 12 && 1 ≤ day && day ≤ daysOf year month then some rest
          else none
      | _ => none
  | _ => none

/-- The rest of a word after a time. The sixtieth second is allowed. -/
def afterTime (word : List Char) : Option (List Char) := do
  match ← takeNumber 2 word with
  | (hour, ':' :: rest) =>
      match ← takeNumber 2 rest with
      | (minute, ':' :: rest) =>
          let (second, rest) ← takeNumber 2 rest
          if hour ≤ 23 && minute ≤ 59 && second ≤ 60 then
            match rest with
            | '.' :: tail =>
                if (tail.head?.any Char.isDigit) then some (tail.dropWhile Char.isDigit) else none
            | rest => some rest
          else none
      | _ => none
  | _ => none

/-- Whether a word is an offset from universal time. -/
def isOffset : List Char → Bool
  | ['Z'] => true
  | ['z'] => true
  | c :: rest =>
      (c = '+' || c = '-')
        && (match takeNumber 2 rest with
          | some (hour, ':' :: rest) =>
              (match takeNumber 2 rest with
              | some (minute, []) => hour ≤ 23 && minute ≤ 59
              | _ => false)
          | _ => false)
  | [] => false

def isDate (word : List Char) : Bool :=
  afterDate word = some []

/-- Whether a word is a date, a time, or both with a letter between them and perhaps an offset. -/
def isMoment (word : List Char) : Bool :=
  match afterDate word with
  | some [] => true
  | some (c :: rest) =>
      (c = 'T' || c = 't')
        && (afterTime rest).any (fun rest => rest.isEmpty || isOffset rest)
  | none => afterTime word = some []

end Stencil.Toml
