/-!
Sets of code points, written as the increasing list of their bounds: where a range begins,
where it has ended, where the next one begins, and so on.
-/

namespace SqlDialects.Text.CodeRange

/-- Whether a code point lies in one of the ranges `[b₀, b₁)`, `[b₂, b₃)`, … of the bounds. -/
def contains : List Nat → Nat → Bool
  | first :: past :: rest, code =>
      if code < first then false else if code < past then true else contains rest code
  | _, _ => false

end SqlDialects.Text.CodeRange
