import Stencil.Script.Grammar.Statement

/-!
The grammar of scripts. The productions that contain each other go through a `Grammar`, the record
of the four that everything else is built from, and `grammar` ties the knot: each level of nesting
uses up one level of it.
-/

namespace Stencil.Script

/-- The grammar for scripts that nest no deeper than the given number. -/
def grammar : Nat → Grammar
  | 0 =>
      { assignment := fun _ => failure
        operators := fun _ _ => failure
        operand := fun _ => failure
        statement := fun _ => failure }
  | depth + 1 =>
      { assignment := fun setting => Parse.assigned (grammar depth) setting
        operators := fun setting least => Parse.infixed (grammar depth) setting least
        operand := fun setting => Parse.prefixed (grammar depth) setting
        statement := fun setting => Parse.stated (grammar depth) setting }

/-- A whole script: whether all of it is strict, its statements, and what its functions keep of the
scopes inside it. -/
structure Source where
  strict : Bool
  body : List Stmt
  captured : Captured

namespace Source

def isFinish : Lexeme → Bool
  | .finish => true
  | _ => false

/-- The script that a text spells; nothing if the grammar refuses it. -/
def ofText? (source : String) : Option Source := do
  let text := Token.skipHead source.toList
  let turns := text.length + 1
  let whole : Parse (Strictness × List Stmt) := Parse.body (grammar (8 * turns)) isFinish {}
  let state : ReadState := { next := Token.first text, turns := turns }
  let (((strictness, body), captured), _) ←
    (Parse.withNames false (fun read => blockNames read.2) whole).run state
  let _ ← (Parse.checkBody [] body).run state
  return ⟨strictness != .loose, body, captured⟩

end Source

end Stencil.Script
