/-!
# Text in a field

A text is cut to a greatest length, then filled up to a least one. Both count characters.
-/
namespace Tenure.Text

inductive Alignment where
  | left
  | right
  | center
  deriving DecidableEq

/-- How a text is fitted into a field. -/
structure Field where
  fill : Char := ' '
  alignment : Alignment := .left
  width : Nat := 0
  limit : Option Nat := none

namespace Field

/-- How many of `n` fill characters stand before the text; an odd one goes behind it. -/
def before (alignment : Alignment) (n : Nat) : Nat :=
  match alignment with
  | .left => 0
  | .right => n
  | .center => n / 2

def fit (field : Field) (text : List Char) : List Char :=
  let cut := match field.limit with
    | some limit => text.take limit
    | none => text
  let missing := field.width - cut.length
  let front := before field.alignment missing
  List.replicate front field.fill ++ cut ++ List.replicate (missing - front) field.fill

theorem before_le (a : Alignment) (n : Nat) : before a n ≤ n := by
  cases a <;> simp only [before] <;> omega

theorem length_fit (field : Field) (text : List Char) (h : field.limit = none) :
    (field.fit text).length = max text.length field.width := by
  have := before_le field.alignment (field.width - text.length)
  simp only [fit, h, List.length_append, List.length_replicate]
  omega

end Field

def padRight (width : Nat) (s : String) : String :=
  let field : Field := { width }
  .ofList (field.fit s.toList)

end Tenure.Text
