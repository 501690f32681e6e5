import SloCompiler.Proofs.BlockCheck
import SloCompiler.Proofs.SelectorNotation

namespace SloCompiler

namespace Text

def before (mark : Char) (cs : List Char) : List Char := cs.takeWhile (· != mark)

def behind (mark : Char) (cs : List Char) : List Char := (cs.dropWhile (· != mark)).drop 1

def between (mark : Char) (cs : List Char) : List Char :=
  (behind mark (behind mark cs).reverse).reverse

variable {mark : Char} {cs : List Char}

theorem not_mark (free : mark ∉ cs) : ∀ c ∈ cs, (c != mark) = true := fun _ present =>
  bne_iff_ne.mpr fun same => free (same ▸ present)

theorem before_append (free : mark ∉ cs) (rest : List Char) :
    before mark (cs ++ mark :: rest) = cs := by
  rw [before, List.takeWhile_append_of_pos (not_mark free), List.takeWhile_cons_of_neg (by simp),
    List.append_nil]

theorem behind_append (free : mark ∉ cs) (rest : List Char) :
    behind mark (cs ++ mark :: rest) = rest := by
  rw [behind, List.dropWhile_append_of_pos (not_mark free), List.dropWhile_cons_of_neg (by simp),
    List.drop_one, List.tail_cons]

theorem between_append (free : mark ∉ cs) {after : List Char} (free' : mark ∉ after)
    (inside : List Char) : between mark (cs ++ mark :: (inside ++ mark :: after)) = inside := by
  have reversed : (inside ++ mark :: after).reverse = after.reverse ++ mark :: inside.reverse := by
    simp
  rw [between, behind_append free, reversed,
    behind_append (fun present => free' (List.mem_reverse.mp present)), List.reverse_reverse]

end Text

namespace Clause

-- A readable form taken apart: up to the first blank, up to the next one, and between the outer
-- quotes.
def readDescription (text : String) : String × String × String :=
  let cs := text.toList
  (String.ofList (Text.before ' ' cs), String.ofList (Text.before ' ' (Text.behind ' ' cs)),
    String.ofList (Text.between '"' cs))

theorem operator_lacks_blank (operator : MatchOperator) : ' ' ∉ operator.text.toList := by
  cases operator <;> decide

theorem describe_toList (c : Clause) : c.describe.toList =
    c.label.toList ++ ' ' :: (c.operator.text.toList ++ ' ' :: '"' ::
      (c.pattern.toList ++ ['"'])) := by
  simp [describe]

-- Nothing is escaped, but blanks and quotes of the pattern come behind those that count.
theorem readDescription_describe (c : Clause) :
    readDescription c.describe = (c.label, c.operator.text, c.pattern) := by
  have label : ' ' ∉ c.label.toList := c.label_lacks (by decide) (by decide)
  have plain : '"' ∉ c.label.toList := c.label_lacks (by decide) (by decide)
  have quoteless : '"' ∉ c.label.toList ++ ' ' :: (c.operator.text.toList ++ [' ']) := by
    simp [plain, operator_lacks_quote]
  have quoted : c.describe.toList = (c.label.toList ++ ' ' :: (c.operator.text.toList ++ [' '])) ++
      '"' :: (c.pattern.toList ++ '"' :: []) := by
    simp [describe_toList]
  have first : Text.before ' ' c.describe.toList = c.label.toList := by
    rw [describe_toList, Text.before_append label]
  have second : Text.before ' ' (Text.behind ' ' c.describe.toList) = c.operator.text.toList := by
    rw [describe_toList, Text.behind_append label, Text.before_append (operator_lacks_blank _)]
  have third : Text.between '"' c.describe.toList = c.pattern.toList := by
    rw [quoted, Text.between_append quoteless List.not_mem_nil]
  simp only [readDescription, first, second, third, String.ofList_toList]

theorem ofSelectors_iff {selectors : List (String × String)} {clauses : List Clause} :
    ofSelectors selectors = .ok clauses ↔
      selectors = clauses.map (fun c => (c.label, c.value)) ∧ ∀ c ∈ clauses, c.Expressible := by
  unfold ofSelectors
  rw [mapM_ok]
  induction selectors generalizing clauses with
  | nil => cases clauses <;> simp
  | cons selector selectors ih =>
    cases clauses with
    | nil => simp
    | cons c clauses =>
      obtain ⟨label, value⟩ := selector
      rw [List.forall₂_cons, ih, ofText_iff, List.map_cons, List.cons.injEq, Prod.mk.injEq,
        List.forall_mem_cons]
      constructor
      · rintro ⟨⟨rfl, expressible, rfl⟩, rfl, each⟩
        exact ⟨⟨⟨rfl, rfl⟩, rfl⟩, expressible, each⟩
      · rintro ⟨⟨⟨rfl, rfl⟩, rfl⟩, expressible, each⟩
        exact ⟨⟨rfl, expressible, rfl⟩, rfl, each⟩

end Clause

namespace Indicator

-- What panels say of an accepted spec's selectors, whatever its indicator, can be read back, clause
-- by clause, and the clauses say what the selectors were.
theorem selectorTexts_readable {raw product sliId : Value} {spec : SliSpec}
    (accepted : SliSpec.read raw product sliId = .ok spec) :
    ∃ clauses texts, dashboardClauses spec = .ok clauses ∧ selectorTexts spec = .ok texts ∧
      texts.length = clauses.length ∧
      texts.map Clause.readDescription =
        clauses.map (fun c => (c.label, c.operator.text, c.pattern)) ∧
      clauses.map (·.label) = spec.selectors.map (·.1) ∧
      spec.selectors = clauses.map fun c => (c.label, c.value) := by
  obtain ⟨clauses, made, _⟩ :=
    dashboardClauses_exists (SliSpec.read_accepts accepted).labels_valid
  obtain ⟨written, _⟩ := Clause.ofSelectors_iff.mp (mapError_ok.mp made)
  have texts : selectorTexts spec = .ok (clauses.map Clause.describe) := map_ok.mpr ⟨_, made, rfl⟩
  refine ⟨clauses, _, made, texts, List.length_map _, ?_, ?_, written⟩
  · rw [List.map_map]
    exact List.map_congr_left fun c _ => c.readDescription_describe
  · rw [written, List.map_map]
    rfl

namespace Spoken

def selectors : List (String × String) := [("job", "!a \"b\" \\ \"c"), ("code", "5..")]

def raw : Value := Sample.withSelectors (selectors.map fun entry => (entry.1, .str entry.2))

theorem accepted : ∃ spec, SliSpec.read raw .null .null = .ok spec ∧ spec.selectors = selectors :=
  toOption_map.mp (by decide +kernel)

end Spoken

theorem spoken_readable : ∃ spec clauses texts,
    SliSpec.read Spoken.raw .null .null = .ok spec ∧ spec.selectors = Spoken.selectors ∧
      dashboardClauses spec = .ok clauses ∧ selectorTexts spec = .ok texts ∧
      texts.length = clauses.length ∧
      texts.map Clause.readDescription =
        clauses.map (fun c => (c.label, c.operator.text, c.pattern)) ∧
      clauses.map (·.label) = spec.selectors.map (·.1) ∧
      spec.selectors = clauses.map fun c => (c.label, c.value) := by
  obtain ⟨spec, accepted, selectors⟩ := Spoken.accepted
  obtain ⟨clauses, texts, readable⟩ := selectorTexts_readable accepted
  exact ⟨spec, clauses, texts, accepted, selectors, readable⟩

end Indicator

end SloCompiler
