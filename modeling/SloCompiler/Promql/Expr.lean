import SloCompiler.Selector.Clause

namespace SloCompiler

-- Query expressions. A text leaf stands for itself, and grouping is explicit.
inductive Expr where
  | text (s : String)
  | series (target : TargetMetric) (selectors : List Clause)
  | window (e : Expr) (span : String)
  | call (function : String) (argument : Expr)
  | quantile (q : String) (buckets : Expr)
  | aggregateBy (operation label : String) (e : Expr)
  | binary (operation : String) (left right : Expr)
  | group (e : Expr)

namespace Expr

def render : Expr → String
  | .text s => s
  | .series target selectors => target.series selectors
  | .window e span => e.render ++ "[" ++ span ++ "]"
  | .call function argument => function ++ "(" ++ argument.render ++ ")"
  | .quantile q buckets => "histogram_quantile(" ++ q ++ ", " ++ buckets.render ++ ")"
  | .aggregateBy operation label e =>
    operation ++ " by (" ++ label ++ ") (" ++ e.render ++ ")"
  | .binary operation left right => left.render ++ " " ++ operation ++ " " ++ right.render
  | .group e => "(" ++ e.render ++ ")"

def vector (n : String) : Expr := .call "vector" (.text n)

def orZero (e : Expr) : Expr := .group (.binary "or" e (vector "0"))

-- The ratio of two aggregates without labels; 0 where the denominator is absent or zero.
def safeRatio (numerator denominator : Expr) : Expr :=
  .group (.binary "or"
    (.binary "/" numerator (.group (.binary ">" denominator (.text "0")))) (vector "0"))

end Expr

end SloCompiler
