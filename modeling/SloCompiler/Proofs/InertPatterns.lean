import SloCompiler.Proofs.ExpressionCheck

namespace SloCompiler
open Check

inductive Fragment where
  | text (s : String) (quoteless : '"' ∉ s.toList)
  | clause (c : Clause)

namespace Fragment

def render : Fragment → String
  | .text s _ => s
  | .clause c => c.render

def hollow : Fragment → Fragment
  | .text s quoteless => .text s quoteless
  | .clause c => .clause c.hollow

def joined (fragments : List Fragment) : String := String.join (fragments.map render)

theorem joined_cons (fragment : Fragment) (fragments : List Fragment) :
    (joined (fragment :: fragments)).toList = fragment.render.toList ++ (joined fragments).toList := by
  simp [joined]

-- Behind a part a reader of delimiters is outside quotes, if it goes on, and it goes on as it does
-- behind the part without its pattern.
theorem hollow_step (fragment : Fragment) (opened : List Char) :
    delimiterRun { opened } fragment.render.toList =
        delimiterRun { opened } fragment.hollow.render.toList ∧
      (delimiterRun { opened } fragment.render.toList = none ∨
        ∃ more, delimiterRun { opened } fragment.render.toList = some { opened := more }) := by
  cases fragment with
  | text s quoteless => exact ⟨rfl, run_outside quoteless opened⟩
  | clause c =>
    have whole : delimiterRun { opened } c.render.toList = some { opened } :=
      clause_neutral c opened
    have bare : delimiterRun { opened } c.hollow.render.toList = some { opened } :=
      clause_neutral c.hollow opened
    exact ⟨whole.trans bare.symm, .inr ⟨opened, whole⟩⟩

theorem hollow_run (fragments : List Fragment) (opened : List Char) :
    delimiterRun { opened } (joined fragments).toList =
      delimiterRun { opened } (joined (fragments.map hollow)).toList := by
  induction fragments generalizing opened with
  | nil => rfl
  | cons fragment fragments ih =>
    obtain ⟨same, outcome⟩ := fragment.hollow_step opened
    rw [List.map_cons, joined_cons, joined_cons, delimiterRun_append, delimiterRun_append, ← same]
    rcases outcome with stops | ⟨more, goes⟩
    · rw [stops, Option.bind_none, Option.bind_none]
    · rw [goes, Option.bind_some, Option.bind_some, ih]

theorem unquoted_render (fragment : Fragment) (rest : List Char) :
    unquoted (fragment.render.toList ++ rest) = fragment.hollow.render.toList ++ unquoted rest := by
  cases fragment with
  | text s quoteless => exact unquoted_append quoteless rest
  | clause c => exact c.unquoted_render rest

theorem unquoted_joined (fragments : List Fragment) :
    unquoted (joined fragments).toList = (joined (fragments.map hollow)).toList := by
  induction fragments with
  | nil => rfl
  | cons fragment fragments ih =>
    rw [List.map_cons, joined_cons, joined_cons, unquoted_render, ih]

end Fragment

namespace Check

def LongestRun (name cs : List Char) : Prop :=
  (∀ c ∈ name, isMetricChar c = true) ∧ ∃ before after, cs = before ++ (name ++ after) ∧
    (∀ c, before.getLast? = some c → isMetricChar c = false) ∧
      ∀ c, after.head? = some c → isMetricChar c = false

theorem mem_words_iff {name cs : List Char} : name ∈ words cs ↔ LongestRun name cs := by
  rw [words, Text.mem_pieces_iff, Text.Bounded, LongestRun]
  simp only [Bool.not_eq_false', Bool.not_eq_true']

theorem sortTexts_pairwise {names : List String} (distinct : names.Nodup) :
    (sortTexts names).Pairwise (· < ·) :=
  Ordered.pairwise_lt (Ordered.sort_pairwise Ordered.notAfter_total Ordered.notAfter_trans names)
    ((Ordered.sort_perm _ names).nodup_iff.mpr distinct)

end Check

open Fragment

theorem patterns_inert (fragments : List Fragment) :
    isBalanced (joined fragments).toList = isBalanced (joined (fragments.map hollow)).toList ∧
      ∀ names : List String, names.Nodup →
        (∀ name ∈ names, name ≠ "" ∧ ∀ c ∈ name.toList, isMetricChar c = true) →
        (referencedNames (joined fragments) names).Pairwise (· < ·) ∧
          ∀ name, name ∈ referencedNames (joined fragments) names ↔
            name ∈ names ∧ LongestRun name.toList (joined (fragments.map hollow)).toList := by
  refine ⟨by rw [isBalanced, isBalanced, hollow_run], fun names distinct named => ⟨?_, ?_⟩⟩
  · exact sortTexts_pairwise (distinct.filter _)
  · intro name
    by_cases listed : name ∈ names
    · obtain ⟨nonempty, metric⟩ := named name listed
      rw [mem_referencedNames nonempty metric, unquoted_joined, mem_words_iff]
    · have unused : name ∉ referencedNames (joined fragments) names := fun used =>
        listed (List.mem_filter.mp (mem_sortTexts.mp used)).1
      exact iff_of_false unused fun found => listed found.1

namespace Sneaking

theorem call_quoteless : '"' ∉ "(sum(up\x7b".toList := by decide

theorem rest_quoteless : '"' ∉ "\x7d[1m]) \\ or sli_value:)".toList := by decide

theorem job_label : isLabelName "job\n" = true := by decide

-- A pattern with delimiters, with an end of its quotes that is none, and with a line feed behind a
-- backslash.
def fragments : List Fragment := [
  .text "(sum(up\x7b" call_quoteless,
  .clause ⟨"job\n", .regexMatch, "\\\", )]: sli_value \\\n\\", job_label⟩,
  .text "\x7d[1m]) \\ or sli_value:)" rest_quoteless]

def names : List String := ["up", "sli_value", "sli_value:", "job"]

end Sneaking

theorem sneaking_inert : Sneaking.names.Nodup ∧
    (∀ name ∈ Sneaking.names, name ≠ "" ∧ ∀ c ∈ name.toList, isMetricChar c = true) ∧
    isBalanced (joined Sneaking.fragments).toList =
      isBalanced (joined (Sneaking.fragments.map hollow)).toList ∧
    referencedNames (joined Sneaking.fragments) Sneaking.names = ["job", "sli_value:", "up"] ∧
    (referencedNames (joined Sneaking.fragments) Sneaking.names).Pairwise (· < ·) ∧
    ∀ name, name ∈ referencedNames (joined Sneaking.fragments) Sneaking.names ↔
      name ∈ Sneaking.names ∧
        LongestRun name.toList (joined (Sneaking.fragments.map hollow)).toList := by
  have distinct : Sneaking.names.Nodup := by decide
  have named : ∀ name ∈ Sneaking.names, name ≠ "" ∧ ∀ c ∈ name.toList, isMetricChar c = true := by
    simp only [Sneaking.names, List.forall_mem_cons]
    exact ⟨⟨by decide, all_chars rfl rfl⟩, ⟨by decide, all_chars rfl rfl⟩,
      ⟨by decide, all_chars rfl rfl⟩, ⟨by decide, all_chars rfl rfl⟩, List.forall_mem_nil _⟩
  obtain ⟨balance, uses⟩ := patterns_inert Sneaking.fragments
  exact ⟨distinct, named, balance, by decide, uses Sneaking.names distinct named⟩

end SloCompiler
