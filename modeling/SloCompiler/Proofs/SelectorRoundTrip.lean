import Mathlib.Data.List.TakeWhile
import Mathlib.Logic.Function.Basic
import SloCompiler.Proofs.RecordName
import SloCompiler.Proofs.SelectorReader

namespace SloCompiler

theorem metricName_chars {name : String} (valid : isMetricName name = true) {c : Char}
    (present : c ∈ name.toList) : isMetricChar c = true ∨ c = '\n' := by
  cases finalNewline_cases name.toList with
  | inl bare =>
    rw [bare] at present
    exact .inl (isMetricChars_all valid c present)
  | inr fed =>
    rw [fed] at present
    cases List.mem_append.mp present with
    | inl body => exact .inl (isMetricChars_all valid c body)
    | inr last => exact .inr (List.mem_singleton.mp last)

theorem metricName_unopened {name : String} (valid : isMetricName name = true) :
    '\x7b' ∉ name.toList := by
  intro present
  cases metricName_chars valid present with
  | inl letter => exact absurd letter (by decide)
  | inr feed => exact absurd feed (by decide)

theorem renderSelector_toList (clauses : List Clause) :
    (renderSelector clauses).toList =
      '\x7b' :: ([',', ' '].intercalate (clauses.map fun c => c.render.toList) ++ ['\x7d']) := by
  simp [renderSelector, Function.comp_def]

namespace SelectorReader

def readSelector? : List Char → Option (List Clause × List Char)
  | '\x7b' :: rest =>
    match readClauses? rest, rest with
    | some found, _ => some found
    | none, '\x7d' :: after => some ([], after)
    | none, _ => none
  | _ => none

def readWhole? (cs : List Char) : Option (List Clause) :=
  match readSelector? cs with
  | some (clauses, []) => some clauses
  | _ => none

def selector? (s : String) : Option (List Clause) := readWhole? s.toList

def series? (s : String) : Option (String × List Clause) :=
  let metric := String.ofList (s.toList.takeWhile (· != '\x7b'))
  match s.toList.dropWhile (· != '\x7b') with
  | [] => some (metric, [])
  | selector => (readWhole? selector).map fun clauses => (metric, clauses)

theorem readClauses?_empty : readClauses? ['\x7d'] = none := by
  have none : readClause? ['\x7d'] = none := rfl
  unfold readClauses?
  split <;> simp_all

theorem readSelector?_render (clauses : List Clause) :
    readSelector? (renderSelector clauses).toList = some (clauses, []) := by
  rw [renderSelector_toList]
  cases clauses with
  | nil =>
    have none := readClauses?_empty
    simp [readSelector?, List.intercalate, none]
  | cons c clauses =>
    have body := readClauses?_render c clauses []
    rw [readSelector?.eq_def]
    simp only [body]

theorem selector?_render (clauses : List Clause) :
    selector? (renderSelector clauses) = some clauses := by
  rw [selector?, readWhole?, readSelector?_render]

theorem series?_render {metric : String} (valid : isMetricName metric = true)
    (clauses : List Clause) : series? (renderSeries metric clauses) = some (metric, clauses) := by
  have unopened : ∀ c ∈ metric.toList, (c != '\x7b') = true := by
    intro c present
    exact bne_iff_ne.mpr fun same => metricName_unopened valid (same ▸ present)
  unfold series? renderSeries
  cases clauses with
  | nil =>
    have whole : metric.toList.takeWhile (· != '\x7b') = metric.toList :=
      List.takeWhile_eq_self_iff.mpr unopened
    have rest : metric.toList.dropWhile (· != '\x7b') = [] :=
      List.dropWhile_eq_nil_iff.mpr unopened
    simp only [List.isEmpty_nil, if_true, whole, rest, String.ofList_toList]
  | cons c clauses =>
    have body := selector?_render (c :: clauses)
    have shape := renderSelector_toList (c :: clauses)
    rw [selector?, shape] at body
    simp only [List.isEmpty_cons, Bool.false_eq_true, if_false, String.toList_append, shape,
      List.takeWhile_append_of_pos unopened, List.dropWhile_append_of_pos unopened]
    rw [List.takeWhile_cons, List.dropWhile_cons, if_neg (by decide), if_neg (by decide)]
    simp only [body, List.append_nil, String.ofList_toList, Option.map_some]

end SelectorReader

open SelectorReader

theorem renderSelector_injective : Function.Injective renderSelector := by
  intro one two same
  have read := selector?_render one
  rw [same, selector?_render two] at read
  exact (Option.some.inj read).symm

-- What a selector or a series is rendered to says what it is.
theorem rendering_invertible :
    (∀ clauses, selector? (renderSelector clauses) = some clauses) ∧
      (∀ metric clauses, isMetricName metric = true →
        series? (renderSeries metric clauses) = some (metric, clauses)) ∧
      (∀ metric, renderSeries metric [] = metric) ∧ Function.Injective renderSelector ∧
      ∀ metric metric' clauses clauses', isMetricName metric = true →
        isMetricName metric' = true → renderSeries metric clauses = renderSeries metric' clauses' →
          metric = metric' ∧ clauses = clauses' := by
  refine ⟨selector?_render, fun _ clauses valid => series?_render valid clauses, fun _ => rfl,
    renderSelector_injective, ?_⟩
  intro metric metric' clauses clauses' valid valid' same
  have read := series?_render valid clauses
  rw [same, series?_render valid' clauses'] at read
  cases read
  exact ⟨rfl, rfl⟩

namespace Quoting

theorem job_label : isLabelName "job" = true := by decide

theorem fed_label : isLabelName "path\n" = true := by decide

def clauses : List Clause := [
  ⟨"job", .regexMatch, "\\\", job!~\"a\\", job_label⟩,
  ⟨"path\n", .notEqual, "\"\x7d, \x7bjob=\"\\\\", fed_label⟩]

end Quoting

theorem quoting_invertible : isMetricName "up" = true ∧
    series? (renderSeries "up" Quoting.clauses) = some ("up", Quoting.clauses) ∧
      (renderSeries "up" Quoting.clauses = renderSeries "up" Quoting.clauses →
        "up" = "up" ∧ Quoting.clauses = Quoting.clauses) := by
  have named : isMetricName "up" = true := by decide
  obtain ⟨_, series, _, _, injective⟩ := rendering_invertible
  exact ⟨named, series "up" _ named, injective "up" "up" _ _ named named⟩

end SloCompiler
