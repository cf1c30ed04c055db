import Stencil.Script.Number
import Stencil.Text.Case

/-!
Patterns: their text, and how they are found in another text. A pattern is matched by trying its
parts from left to right; each part hands every way in which it can end to what comes next, the
preferred one first, and the first way that suits the whole pattern wins.
-/

namespace Stencil.Script

/-- A part of a pattern. -/
inductive PatternNode where
  | empty
  | unit (value : UInt16)
  | any
  | set (negated : Bool) (ranges : List (Nat × Nat))
  | sequence (first second : PatternNode)
  | either (first second : PatternNode)
  | group (index : Nat) (body : PatternNode)
  /-- A body that comes at least `least` and at most `most` times; it holds the groups from `low` to
  below `high`. -/
  | loop (body : PatternNode) (least : Nat) (most : Option Nat) (greedy : Bool) (low high : Nat)
  | start
  | finish
  | boundary (negated : Bool)
  | ahead (negated : Bool) (body : PatternNode)
  /-- The text of a group once more. -/
  | again (index : Nat)

structure Pattern where
  node : PatternNode
  groups : Nat
  anyCase : Bool
  lines : Bool
  dotAll : Bool

/-- How many steps a match of this part can take at one place. -/
def PatternNode.size : PatternNode → Nat
  | .sequence first second => first.size + second.size + 1
  | .either first second => first.size + second.size + 1
  | .group _ body => body.size + 1
  | .loop body least _ _ _ _ => (body.size + 1) * (least + 2)
  | .ahead _ body => body.size + 1
  | _ => 1

namespace Pattern

/-! ### Reading -/

/-- What is left of a pattern, and the number of the next group. -/
structure Rest where
  input : List Char
  group : Nat

abbrev Reader := StateT Rest Option

def digits : List (Nat × Nat) := [(48, 57)]

def wordUnits : List (Nat × Nat) := [(48, 57), (65, 90), (95, 95), (97, 122)]

def spaces : List (Nat × Nat) :=
  [(9, 13), (0x20, 0x20), (0xA0, 0xA0), (0x1680, 0x1680), (0x2000, 0x200A), (0x2028, 0x2029),
    (0x202F, 0x202F), (0x205F, 0x205F), (0x3000, 0x3000), (0xFEFF, 0xFEFF)]

/-- Every unit that is in none of the ranges, which rise. -/
def complementFrom : Nat → List (Nat × Nat) → List (Nat × Nat)
  | low, [] => if low ≤ 0xFFFF then [(low, 0xFFFF)] else []
  | low, (first, last) :: rest =>
      (if low < first then [(low, first - 1)] else []) ++ complementFrom (last + 1) rest

/-- The class that a letter after a backslash stands for. -/
def classOf? (c : Char) : Option (List (Nat × Nat)) :=
  match c with
  | 'd' => some digits
  | 'D' => some (complementFrom 0 digits)
  | 'w' => some wordUnits
  | 'W' => some (complementFrom 0 wordUnits)
  | 's' => some spaces
  | 'S' => some (complementFrom 0 spaces)
  | _ => none

def peek : Reader (Option Char) := do
  return (← get).input.head?

def drop (count : Nat) : Reader Unit :=
  modify fun rest => { rest with input := rest.input.drop count }

def accept (c : Char) : Reader Bool := do
  if (← peek) = some c then
    drop 1
    return true
  else return false

def hex (count : Nat) : Reader Nat := do
  let taken := (← get).input.take count
  if taken.length = count && taken.all (Number.isDigit 16) then
    drop count
    return Number.ofDigits 16 taken
  else failure

/-- The unit that an escape stands for, after its backslash. -/
def escapedUnits : Reader Units := do
  match ← peek with
  | none => failure
  | some c =>
      drop 1
      match c with
      | 'n' => return [10]
      | 't' => return [9]
      | 'r' => return [13]
      | 'f' => return [12]
      | 'v' => return [11]
      | '0' => return [0]
      | 'x' => return [UInt16.ofNat (← hex 2)]
      | 'u' => return [UInt16.ofNat (← hex 4)]
      | c => return Units.ofChar c

/-- One member of a class in brackets: ranges, and the unit that it is if it is only one. -/
def classAtom : Reader (List (Nat × Nat) × Option Nat) := do
  let single (units : Units) : List (Nat × Nat) × Option Nat :=
    match units with
    | [unit] => ([(unit.toNat, unit.toNat)], some unit.toNat)
    | units => (units.map (fun unit => (unit.toNat, unit.toNat)), none)
  match ← peek with
  | none => failure
  | some '\\' =>
      drop 1
      match ← peek with
      | some 'b' =>
          drop 1
          return single [8]
      | some c =>
          match classOf? c with
          | some ranges =>
              drop 1
              return (ranges, none)
          | none => return single (← escapedUnits)
      | none => failure
  | some c =>
      drop 1
      return single (Units.ofChar c)

def classLoop : Nat → List (Nat × Nat) → Reader (List (Nat × Nat))
  | 0, _ => failure
  | fuel + 1, held => do
      if ← accept ']' then return held
      let (ranges, low) ← classAtom
      match (← get).input with
      | '-' :: c :: _ =>
          if c = ']' then classLoop fuel (ranges ++ held)
          else
            drop 1
            let (others, high) ← classAtom
            match low, high with
            | some low, some high =>
                if high < low then failure else classLoop fuel ((low, high) :: held)
            | _, _ => classLoop fuel ((45, 45) :: ranges ++ others ++ held)
      | _ => classLoop fuel (ranges ++ held)

def number? : Reader (Option Nat) := do
  let taken := (← get).input.takeWhile Char.isDigit
  if taken.isEmpty then return none
  drop taken.length
  return some (Number.ofDigits 10 taken)

/-- Bounds in braces; nothing is taken if these are no bounds. -/
def bounds? : Reader (Option (Nat × Option Nat)) := do
  let before ← get
  let giveUp : Reader (Option (Nat × Option Nat)) := do
    set before
    return none
  if !(← accept '\x7b') then return none
  match ← number? with
  | none => giveUp
  | some least =>
      if ← accept '\x7d' then return some (least, some least)
      if !(← accept ',') then return (← giveUp)
      let most ← number?
      if ← accept '\x7d' then return some (least, most) else giveUp

def quantifier? : Reader (Option (Nat × Option Nat)) := do
  if ← accept '*' then return some (0, none)
  if ← accept '+' then return some (1, none)
  if ← accept '?' then return some (0, some 1)
  bounds?

def ofUnits : Units → PatternNode
  | [] => .empty
  | [unit] => .unit unit
  | unit :: rest => .sequence (.unit unit) (ofUnits rest)

/-- What stands in a parenthesis after its opening, with the alternatives read by `inner`. -/
def groupBody (inner : Reader PatternNode) : Reader PatternNode := do
  let close (node : PatternNode) : Reader PatternNode := do
    if ← accept ')' then return node else failure
  match (← get).input with
  | '?' :: ':' :: _ =>
      drop 2
      close (← inner)
  | '?' :: '=' :: _ =>
      drop 2
      close (.ahead false (← inner))
  | '?' :: '!' :: _ =>
      drop 2
      close (.ahead true (← inner))
  | '?' :: _ => failure
  | _ =>
      let index := (← get).group
      modify fun rest => { rest with group := index + 1 }
      close (.group index (← inner))

def escapeNode : Reader PatternNode := do
  match ← peek with
  | none => failure
  | some 'b' =>
      drop 1
      return .boundary false
  | some 'B' =>
      drop 1
      return .boundary true
  | some c =>
      match classOf? c with
      | some ranges =>
          drop 1
          return .set false ranges
      | none =>
          if c.isDigit && c != '0' then
            match ← number? with
            | some index => return .again index
            | none => failure
          else return ofUnits (← escapedUnits)

/-- One part without its bounds; nothing at the end of an alternative. -/
def atom? (inner : Reader PatternNode) : Reader (Option PatternNode) := do
  match ← peek with
  | none => return none
  | some '|' => return none
  | some ')' => return none
  | some c =>
      if c = '*' || c = '+' || c = '?' then failure
      if c = '\x7b' && (← bounds?).isSome then failure
      drop 1
      match c with
      | '^' => return some .start
      | '$' => return some .finish
      | '.' => return some .any
      | '(' => return some (← groupBody inner)
      | '[' =>
          let negated ← accept '^'
          return some (.set negated (← classLoop ((← get).input.length + 1) []))
      | '\\' => return some (← escapeNode)
      | c => return some (ofUnits (Units.ofChar c))

def partsLoop (inner : Reader PatternNode) : Nat → PatternNode → Reader PatternNode
  | 0, _ => failure
  | fuel + 1, held => do
      let low := (← get).group
      match ← atom? inner with
      | none => return held
      | some atom =>
          match ← quantifier? with
          | none => partsLoop inner fuel (.sequence held atom)
          | some (least, most) =>
              let greedy := !(← accept '?')
              let high := (← get).group
              partsLoop inner fuel (.sequence held (.loop atom least most greedy low high))

/-- Alternatives; `depth` bounds how deep parentheses nest. -/
def alternatives : Nat → Nat → Reader PatternNode
  | 0, _ => failure
  | _, 0 => failure
  | depth + 1, fuel + 1 => do
      let first ← partsLoop (alternatives depth (fuel + 1)) ((← get).input.length + 1) .empty
      if ← accept '|' then return .either first (← alternatives (depth + 1) fuel)
      return first
termination_by depth fuel => (depth, fuel)

/-! ### Matching -/

/-- Where a match stands: the next position, and what the groups have taken. -/
structure Place where
  position : Nat
  groups : List (Option (Nat × Nat))

/-- A unit as it is compared when case does not count. -/
def fold (unit : UInt16) : UInt16 :=
  match Text.capital (Char.ofNat unit.toNat) with
  | [c] =>
      if c.toNat < 0x10000 && !(0x80 ≤ unit.toNat && c.toNat < 0x80) then UInt16.ofNat c.toNat
      else unit
  | _ => unit

def isLineEnd (unit : UInt16) : Bool :=
  unit = 10 || unit = 13 || unit = 0x2028 || unit = 0x2029

def inRanges (ranges : List (Nat × Nat)) (unit : UInt16) : Bool :=
  ranges.any (fun range => range.1 ≤ unit.toNat && unit.toNat ≤ range.2)

def inSet (anyCase : Bool) (ranges : List (Nat × Nat)) (unit : UInt16) : Bool :=
  inRanges ranges unit
    || (anyCase
      && (inRanges ranges (fold unit)
        || (Text.small (Char.ofNat unit.toNat)).any
            (fun c => inRanges ranges (UInt16.ofNat c.toNat))))

def isWordAt (text : Array UInt16) (position : Nat) : Bool :=
  (text[position]?).any (inRanges wordUnits)

def same (anyCase : Bool) (a b : UInt16) : Bool :=
  a = b || (anyCase && fold a = fold b)

/-- Whether the text has the same units at two places, `count` of them. -/
def repeats (anyCase : Bool) (text : Array UInt16) (left right : Nat) : Nat → Bool
  | 0 => true
  | count + 1 =>
      match text[left]?, text[right]? with
      | some a, some b => same anyCase a b && repeats anyCase text (left + 1) (right + 1) count
      | _, _ => false

/-- Forgets the groups from `low` to below `high`. -/
def clear (low high : Nat) (groups : List (Option (Nat × Nat))) : List (Option (Nat × Nat)) :=
  groups.mapIdx fun index held => if low ≤ index && index < high then none else held

/-- Matches a part at a place and goes on with `next`. -/
def run (pattern : Pattern) (text : Array UInt16) :
    Nat → PatternNode → Place → (Place → Option Place) → Option Place
  | 0, _, _, _ => none
  | fuel + 1, node, place, next =>
      let one (suits : UInt16 → Bool) : Option Place :=
        match text[place.position]? with
        | some unit =>
            if suits unit then next { place with position := place.position + 1 } else none
        | none => none
      match node with
      | .empty => next place
      | .unit value => one (same pattern.anyCase value)
      | .any => one (fun unit => pattern.dotAll || !isLineEnd unit)
      | .set negated ranges => one (fun unit => inSet pattern.anyCase ranges unit != negated)
      | .sequence first second =>
          run pattern text fuel first place (fun place => run pattern text fuel second place next)
      | .either first second =>
          match run pattern text fuel first place next with
          | some found => some found
          | none => run pattern text fuel second place next
      | .group index body =>
          run pattern text fuel body place fun after =>
            next { after with
              groups := after.groups.set index (some (place.position, after.position)) }
      | .loop body least most greedy low high =>
          if most = some 0 then next place
          else
            let more (_ : Unit) : Option Place :=
              run pattern text fuel body { place with groups := clear low high place.groups }
                fun after =>
                  if least = 0 && after.position = place.position then none
                  else
                    run pattern text fuel
                      (.loop body (least - 1) (most.map (fun n => n - 1)) greedy low high) after
                      next
            if 0 < least then more ()
            else if greedy then
              match more () with
              | some found => some found
              | none => next place
            else
              match next place with
              | some found => some found
              | none => more ()
      | .start =>
          if place.position = 0
              || (pattern.lines && (text[place.position - 1]?).any isLineEnd) then
            next place
          else none
      | .finish =>
          if place.position = text.size
              || (pattern.lines && (text[place.position]?).any isLineEnd) then
            next place
          else none
      | .boundary negated =>
          let before := 0 < place.position && isWordAt text (place.position - 1)
          if (before != isWordAt text place.position) != negated then next place else none
      | .ahead negated body =>
          match run pattern text fuel body place some with
          | some after =>
              if negated then none else next { place with groups := after.groups }
          | none => if negated then next place else none
      | .again index =>
          match place.groups[index]?.join with
          | none => next place
          | some (start, finish) =>
              if repeats pattern.anyCase text start place.position (finish - start) then
                next { place with position := place.position + (finish - start) }
              else none

/-- The pattern of a body and its flags; nothing if one of them is wrong. -/
def ofText? (body flags : Units) : Option Pattern := do
  let input := Units.toCharsLossy body
  let flags := Units.toCharsLossy flags
  if !flags.all (fun flag => ['d', 'g', 'i', 'm', 's', 'u', 'y'].contains flag) || !flags.Nodup then
    none
  let fuel := input.length + 2
  let (node, rest) ← (alternatives fuel fuel).run ⟨input, 1⟩
  if !rest.input.isEmpty then none
  return ⟨node, rest.group, flags.contains 'i', flags.contains 'm', flags.contains 's'⟩

/-- A match: where it starts and ends, and what each group took. -/
structure Found where
  start : Nat
  finish : Nat
  groups : List (Option (Nat × Nat))

def matchAt (pattern : Pattern) (text : Array UInt16) (position : Nat) : Option Found :=
  let fuel := (text.size + 2) * (pattern.node.size + 2)
  let place : Place := ⟨position, List.replicate pattern.groups none⟩
  (run pattern text fuel pattern.node place some).map fun after =>
    ⟨position, after.position, after.groups.drop 1⟩

/-- The first match that starts within `count` positions. -/
def findLoop (pattern : Pattern) (text : Array UInt16) : Nat → Nat → Option Found
  | 0, _ => none
  | count + 1, position =>
      match matchAt pattern text position with
      | some found => some found
      | none => findLoop pattern text count (position + 1)

def find (pattern : Pattern) (text : Array UInt16) (position : Nat) : Option Found :=
  findLoop pattern text (text.size + 1 - position) position

end Pattern

end Stencil.Script
