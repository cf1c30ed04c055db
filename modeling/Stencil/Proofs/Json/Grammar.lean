import Mathlib.Data.List.Forall2
import Stencil.Json.Value
import Stencil.Text.Units

/-!
JSON texts. `Spells value text` says that a text is one of the ways to write a value: characters may be
escaped or not, digits of an escape are of either case, members come in any order and may repeat a name,
and spaces may stand between all parts. Which number a numeral stands for is left open.
-/

namespace Stencil.Json

/-- Spaces that mean nothing. -/
def Spaces (text : List Char) : Prop :=
  ∀ c ∈ text, c ∈ [' ', '\n', '\t', '\r']

/-! ### Strings -/

/-- The characters that a backslash and one letter stand for, each after its letter. -/
def shortEscapes : List (Char × Char) :=
  [('\x22', '\x22'), ('\\', '\\'), ('/', '/'), ('b', '\x08'), ('f', '\x0c'), ('n', '\n'),
    ('r', '\r'), ('t', '\t')]

/-- A code unit as a backslash, `u` and four hexadecimal digits. -/
inductive SpellsUnit : UInt16 → List Char → Prop
  | digits {unit : UInt16} {a b c d : Char} {first second third fourth : Nat} :
      Hex.value? a = some first → Hex.value? b = some second → Hex.value? c = some third →
      Hex.value? d = some fourth →
      unit.toNat = first * 0x1000 + second * 0x100 + third * 0x10 + fourth →
      SpellsUnit unit ['\\', 'u', a, b, c, d]

/-- A character as itself, by a letter, or by its code units. -/
inductive SpellsChar : Char → List Char → Prop
  | plain {c : Char} : 0x20 ≤ c.toNat → c ≠ '\x22' → c ≠ '\\' → SpellsChar c [c]
  | short {letter c : Char} : (letter, c) ∈ shortEscapes → SpellsChar c ['\\', letter]
  | units {c : Char} {texts : List (List Char)} :
      List.Forall₂ SpellsUnit (Units.ofChar c) texts → SpellsChar c texts.flatten

inductive SpellsChars : List Char → List Char → Prop
  | nil : SpellsChars [] []
  | cons {c : Char} {chars text rest : List Char} :
      SpellsChar c text → SpellsChars chars rest → SpellsChars (c :: chars) (text ++ rest)

inductive SpellsString : String → List Char → Prop
  | quoted {value : String} {text : List Char} :
      SpellsChars value.toList text → SpellsString value ('\x22' :: (text ++ ['\x22']))

/-! ### Numerals -/

def digits : List Char :=
  ['0', '1', '2', '3', '4', '5', '6', '7', '8', '9']

/-- One or more digits. -/
def Digits (text : List Char) : Prop :=
  text ≠ [] ∧ ∀ c ∈ text, c ∈ digits

/-- A sign, a whole part without needless zeros, a fraction and an exponent; of these the whole part
must be there. -/
inductive Numeral : List Char → Prop
  | parts {sign whole fraction exponent : List Char} :
      sign = [] ∨ sign = ['-'] →
      Digits whole → (whole.head? = some '0' → whole = ['0']) →
      fraction = [] ∨ (∃ tail, fraction = '.' :: tail ∧ Digits tail) →
      exponent = [] ∨ (∃ mark ∈ ['e', 'E'], ∃ up ∈ [[], ['+'], ['-']], ∃ tail,
        exponent = mark :: (up ++ tail) ∧ Digits tail) →
      Numeral (sign ++ (whole ++ (fraction ++ exponent)))

/-! ### Values -/

/-- What stands between two parts of a list or an object: nothing before the first one. -/
def separator (first : Bool) : List Char :=
  if first then [] else [',']

mutual

inductive Spells : Json → List Char → Prop
  | null : Spells .null ['n', 'u', 'l', 'l']
  | yes : Spells (.bool true) ['t', 'r', 'u', 'e']
  | no : Spells (.bool false) ['f', 'a', 'l', 's', 'e']
  | number {value : Number} {text : List Char} : Numeral text → Spells (.number value) text
  | string {value : String} {text : List Char} : SpellsString value text → Spells (.string value) text
  | array {items : List Json} {text : List Char} :
      SpellsItems true items text → Spells (.array items) ('[' :: (text ++ [']']))
  | object {members : List (String × Json)} {text : List Char} :
      SpellsMembers true members text → Spells (.object members) ('\x7b' :: (text ++ ['\x7d']))

/-- What stands between the brackets, from the first item or from a later one. -/
inductive SpellsItems : Bool → List Json → List Char → Prop
  | nil {first : Bool} {gap : List Char} : Spaces gap → SpellsItems first [] gap
  | cons {first : Bool} {item : Json} {items : List Json} {gap lead text rest : List Char} :
      Spaces gap → Spaces lead → Spells item text → SpellsItems false items rest →
      SpellsItems first (item :: items) (gap ++ (separator first ++ (lead ++ (text ++ rest))))

/-- What stands between the braces, from the first member or from a later one. -/
inductive SpellsMembers : Bool → List (String × Json) → List Char → Prop
  | nil {first : Bool} {gap : List Char} : Spaces gap → SpellsMembers first [] gap
  | cons {first : Bool} {name : String} {value : Json} {members : List (String × Json)}
      {gap lead label before after text rest : List Char} :
      Spaces gap → Spaces lead → SpellsString name label → Spaces before → Spaces after →
      Spells value text → SpellsMembers false members rest →
      SpellsMembers first ((name, value) :: members)
        (gap ++ (separator first ++ (lead ++ (label ++
          (before ++ ':' :: (after ++ (text ++ rest)))))))

end

/-- A text that is nothing but a value, with spaces around it. -/
inductive Document : Json → List Char → Prop
  | around {value : Json} {before text after : List Char} :
      Spaces before → Spells value text → Spaces after → Document value (before ++ (text ++ after))

end Stencil.Json
