import Stencil.Text.Blank

/-!
Paths as text. `join` puts a name under a base, `parts` are the names to walk through.
-/

namespace Stencil.Path

def isAbsolute (path : List Char) : Bool :=
  path.head? = some '/'

/-- A name under a base. An absolute name takes the place of the base; an empty name leaves a slash
at the end. -/
def joinChars (base name : List Char) : List Char :=
  if isAbsolute name || base.isEmpty then name
  else if base.getLast? = some '/' then base ++ name
  else base ++ '/' :: name

def join (base name : String) : String :=
  String.ofList (joinChars base.toList name.toList)

/-- A path with one slash at its end. -/
def closeChars (path : List Char) : List Char :=
  if path.getLast? = some '/' then path else path ++ ['/']

def close (path : String) : String :=
  String.ofList (closeChars path.toList)

/-- A name stands under a path with the slash as it does without. -/
theorem joinChars_closeChars (base name : List Char) (filled : base ≠ [])
    (relative : isAbsolute name = false) :
    joinChars (closeChars base) name = joinChars base name := by
  unfold joinChars closeChars
  by_cases ended : base.getLast? = some '/'
  · rw [if_pos ended]
  · simp [relative, filled, ended]

theorem join_close (base name : String) (filled : base ≠ "")
    (relative : isAbsolute name.toList = false) : join (close base) name = join base name := by
  unfold join close
  rw [String.toList_ofList,
    joinChars_closeChars base.toList name.toList (by simpa using filled) relative]

/-- The names a path walks through. A slash at the end walks through `.`, so that only a directory
may stand before it. -/
def parts (path : List Char) : List String :=
  let pieces := Text.splitOn '/' path
  let names := (pieces.filter (fun piece => !piece.isEmpty)).map String.ofList
  if !path.isEmpty && pieces.getLast? = some [] then names ++ ["."] else names

/-- What follows the last dot of the last name, if a name stands before that dot. -/
def extension? (path : String) : Option String :=
  let last := (Text.splitOn '/' path.toList).getLast?.getD []
  let reversed := last.reverse
  let after := reversed.takeWhile (fun c => c != '.')
  match reversed.drop (after.length + 1) with
  | [] => none
  | _ => some (String.ofList after.reverse)

end Stencil.Path
