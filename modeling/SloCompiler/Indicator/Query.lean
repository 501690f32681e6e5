import SloCompiler.Indicator.Basic

namespace SloCompiler.Indicator

def rate (series : Expr) (window : String) : Expr :=
  .call "sum" (.call "rate" (.window series window))

def averageUp (up : Expr) (window : String) : Expr :=
  .call "avg" (.call "avg_over_time" (.window up window))

def errorShare (errors total : Expr) (window : String) : Expr :=
  Expr.safeRatio (Expr.orZero (rate errors window)) (rate total window)

def percentile (spec : SliSpec) (buckets : Expr) : Expr :=
  .quantile ((spec.latencyPercentile.getD .nan).plain)
    (.aggregateBy "sum" bucketLabel (.call "rate" (.window buckets spec.evalInterval)))

-- A percentile counts only while there are requests; without them the value is 0.
def percentileWithTraffic (percentile traffic : Expr) : Expr :=
  Expr.orZero (.binary "and on()" percentile (.group (.binary ">" traffic (.text "0"))))

def holds (i : Indicator) (spec : SliSpec) (value : Expr) : Expr :=
  .binary ((i.comparison spec).text ++ " bool") value (threshold spec)

end SloCompiler.Indicator
