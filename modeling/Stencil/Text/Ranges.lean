/-!
Closed ranges of code points, by which a property of characters is told.
-/

namespace Stencil.Text

def inRanges (ranges : Array (Nat × Nat)) (n : Nat) : Bool :=
  ranges.any (fun range => range.1 ≤ n && n ≤ range.2)

end Stencil.Text
