import SloCompiler.Check.Expression
import SloCompiler.Proofs.Ordered
import SloCompiler.Proofs.Outcome
import SloCompiler.Selector.Clause

namespace SloCompiler.Text

variable {sep : Char → Bool}

theorem pieces_separator {c : Char} (mark : sep c = true) (rest : List Char) :
    pieces sep (c :: rest) = [] :: pieces sep rest := by
  simp [pieces, mark]

theorem pieces_first (sep : Char → Bool) (cs : List Char) :
    ∃ more, pieces sep cs = cs.takeWhile (!sep ·) :: more := by
  induction cs with
  | nil => exact ⟨[], rfl⟩
  | cons c rest ih =>
    obtain ⟨more, shape⟩ := ih
    by_cases mark : sep c = true
    · exact ⟨pieces sep rest, by simp [pieces, mark]⟩
    · exact ⟨more, by simp [pieces, mark, shape]⟩

theorem pieces_cons {c : Char} (other : sep c = false) {rest piece : List Char}
    {more : List (List Char)} (shape : pieces sep rest = piece :: more) :
    pieces sep (c :: rest) = (c :: piece) :: more := by
  simp [pieces, other, shape]

theorem pieces_append (a b : List Char) {c : Char} (mark : sep c = true) :
    pieces sep (a ++ c :: b) = pieces sep a ++ pieces sep b := by
  induction a with
  | nil => simp [pieces, mark]
  | cons d a ih =>
    by_cases split : sep d = true
    · simp [pieces, split, ih]
    · obtain ⟨more, shape⟩ := pieces_first sep a
      have whole : pieces sep (a ++ c :: b) =
          a.takeWhile (!sep ·) :: (more ++ pieces sep b) := by rw [ih, shape, List.cons_append]
      have plain : sep d = false := by simpa using split
      rw [List.cons_append, pieces_cons plain whole, pieces_cons plain shape, List.cons_append]

theorem pieces_unseparated {cs : List Char} (none : ∀ c ∈ cs, sep c = false) :
    pieces sep cs = [cs] := by
  induction cs with
  | nil => rfl
  | cons c rest ih =>
    have tail := ih fun d member => none d (List.mem_cons_of_mem _ member)
    exact pieces_cons (none c List.mem_cons_self) tail

theorem pieces_cases (sep : Char → Bool) (cs : List Char) :
    (∀ c ∈ cs, sep c = false) ∨ ∃ start c rest, cs = start ++ c :: rest ∧
      (∀ d ∈ start, sep d = false) ∧ sep c = true := by
  induction cs with
  | nil => exact .inl (List.forall_mem_nil _)
  | cons c cs ih =>
    cases mark : sep c with
    | true => exact .inr ⟨[], c, cs, rfl, List.forall_mem_nil _, mark⟩
    | false =>
      rcases ih with none | ⟨start, d, rest, rfl, first, found⟩
      · exact .inl (List.forall_mem_cons.mpr ⟨mark, none⟩)
      · exact .inr ⟨c :: start, d, rest, rfl, List.forall_mem_cons.mpr ⟨mark, first⟩, found⟩

def Bounded (sep : Char → Bool) (piece cs : List Char) : Prop :=
  ∃ before after, cs = before ++ (piece ++ after) ∧
    (∀ c, before.getLast? = some c → sep c = true) ∧ ∀ c, after.head? = some c → sep c = true

theorem mem_pieces_of_bounded {cs piece : List Char} (inner : ∀ c ∈ piece, sep c = false)
    (bounded : Bounded sep piece cs) : piece ∈ pieces sep cs := by
  obtain ⟨before, after, rfl, left, right⟩ := bounded
  have behind : piece ∈ pieces sep (piece ++ after) := by
    cases after with
    | nil => simp [pieces_unseparated inner]
    | cons c after =>
      rw [pieces_append _ _ (right c rfl), pieces_unseparated inner]
      exact List.mem_cons_self
  cases before using List.reverseRecOn with
  | nil => exact behind
  | append_singleton before c =>
    have mark : sep c = true := left c (by simp)
    rw [List.append_assoc, List.singleton_append, pieces_append _ _ mark]
    exact List.mem_append_right _ behind

theorem bounded_of_mem_pieces {cs piece : List Char} (listed : piece ∈ pieces sep cs) :
    (∀ c ∈ piece, sep c = false) ∧ Bounded sep piece cs := by
  rcases pieces_cases sep cs with none | ⟨start, c, rest, shape, first, mark⟩
  · rw [pieces_unseparated none] at listed
    obtain rfl := List.mem_singleton.mp listed
    exact ⟨none, [], [], by simp, nofun, nofun⟩
  · rw [shape, pieces_append _ _ mark, pieces_unseparated first] at listed
    rcases List.mem_cons.mp listed with rfl | later
    · refine ⟨first, [], c :: rest, shape, nofun, fun d head => ?_⟩
      exact Option.some.inj head ▸ mark
    · obtain ⟨inner, before, after, same, left, right⟩ := bounded_of_mem_pieces later
      refine ⟨inner, start ++ c :: before, after, by simp [shape, same], fun d last => ?_, right⟩
      cases before with
      | nil =>
        obtain rfl : c = d := by simpa using last
        exact mark
      | cons e before => exact left d (by simpa [List.getLast?_append] using last)
termination_by cs.length
decreasing_by simp only [shape, List.length_append, List.length_cons]; omega

theorem mem_pieces_iff {cs piece : List Char} :
    piece ∈ pieces sep cs ↔ (∀ c ∈ piece, sep c = false) ∧ Bounded sep piece cs :=
  ⟨bounded_of_mem_pieces, fun ⟨inner, bounded⟩ => mem_pieces_of_bounded inner bounded⟩

theorem mem_of_mem_pieces {cs piece : List Char} (listed : piece ∈ pieces sep cs) {c : Char}
    (present : c ∈ piece) : c ∈ cs := by
  obtain ⟨_, before, after, rfl, _⟩ := bounded_of_mem_pieces listed
  simp [present]

end SloCompiler.Text

namespace SloCompiler.Check

-- The longest runs of name characters in a text, empty ones between neighbouring marks.
def words (cs : List Char) : List (List Char) := Text.pieces (!isMetricChar ·) cs

theorem words_append (a b : List Char) {c : Char} (mark : isMetricChar c = false) :
    words (a ++ c :: b) = words a ++ words b := Text.pieces_append a b (by simp [mark])

theorem words_mark {c : Char} (mark : isMetricChar c = false) (rest : List Char) :
    words (c :: rest) = [] :: words rest := Text.pieces_separator (by simp [mark]) rest

theorem words_metric {cs : List Char} (metric : ∀ c ∈ cs, isMetricChar c = true) :
    words cs = [cs] := Text.pieces_unseparated fun c member => by simp [metric c member]

theorem mem_of_mem_words {cs word : List Char} (listed : word ∈ words cs) {c : Char}
    (present : c ∈ word) : c ∈ cs := Text.mem_of_mem_pieces listed present

theorem isPrefixOf_takeWhile {name : List Char} (cs : List Char)
    (metric : ∀ c ∈ name, isMetricChar c = true) :
    (name.isPrefixOf cs && !(cs.drop name.length).head?.any isMetricChar) = true ↔
      name = cs.takeWhile isMetricChar := by
  induction name generalizing cs with
  | nil =>
    cases cs with
    | nil => simp
    | cons c cs => cases letter : isMetricChar c <;> simp [letter]
  | cons d name ih =>
    have letter := metric d List.mem_cons_self
    have tail := ih cs.tail fun c member => metric c (List.mem_cons_of_mem _ member)
    cases cs with
    | nil => simp
    | cons c cs =>
      by_cases same : d = c
      · subst same
        simpa [letter] using tail
      · have other : d :: name ≠ (c :: cs).takeWhile isMetricChar := by
          intro eq
          cases here : isMetricChar c <;> simp [here] at eq
          exact same eq.1
        simp [same, other]

-- A name stands whole in a text exactly if it is one of its words. Behind a name character the
-- first word is the rest of one that has begun before.
theorem occursWhole_words {name : List Char} (nonempty : name ≠ [])
    (metric : ∀ c ∈ name, isMetricChar c = true) (cs : List Char) :
    (occursWhole name false cs = true ↔ name ∈ words cs) ∧
      (occursWhole name true cs = true ↔ name ∈ (words cs).tail) := by
  induction cs with
  | nil => simp [occursWhole, words, Text.pieces, nonempty]
  | cons c rest ih =>
    obtain ⟨fresh, inside⟩ := ih
    cases letter : isMetricChar c with
    | true =>
      obtain ⟨more, shape⟩ := Text.pieces_first (!isMetricChar ·) rest
      have whole : words (c :: rest) = (c :: rest.takeWhile isMetricChar) :: more := by
        rw [words, Text.pieces_cons (by simp [letter]) shape]
        simp
      have tail : (words rest).tail = more := by rw [words, shape, List.tail_cons]
      have here := isPrefixOf_takeWhile (c :: rest) metric
      rw [List.takeWhile_cons, if_pos letter] at here
      rw [whole, List.tail_cons, List.mem_cons, ← tail, ← inside, ← here]
      simp [occursWhole, letter]
    | false =>
      obtain ⟨d, name', rfl⟩ := List.exists_cons_of_ne_nil nonempty
      have apart : d ≠ c := fun eq => by simp [← eq, metric d List.mem_cons_self] at letter
      rw [words_mark letter, List.tail_cons, List.mem_cons, ← fresh]
      simp [occursWhole, letter, apart]

theorem mem_sortTexts {name : String} {names : List String} :
    name ∈ sortTexts names ↔ name ∈ names := (Ordered.sort_perm _ names).mem_iff

def unquoted (cs : List Char) : List Char := emptyQuoted cs.length cs

theorem mem_referencedNames {expr name : String} {names : List String} (nonempty : name ≠ "")
    (metric : ∀ c ∈ name.toList, isMetricChar c = true) :
    name ∈ referencedNames expr names ↔
      name ∈ names ∧ name.toList ∈ words (unquoted expr.toList) := by
  have nonempty : name.toList ≠ [] := fun empty =>
    nonempty (String.toList_inj.mp (empty.trans String.toList_empty.symm))
  simp only [referencedNames, mem_sortTexts, List.mem_filter, unquoted,
    (occursWhole_words nonempty metric _).1]

theorem used_among {expr name : String} {names others : List String}
    (used : name ∈ referencedNames expr names) (listed : name ∈ others) :
    name ∈ referencedNames expr others := by
  have occurs := (List.mem_filter.mp (mem_sortTexts.mp used)).2
  exact mem_sortTexts.mpr (List.mem_filter.mpr ⟨listed, occurs⟩)

theorem afterQuoted?_shorter {cs rest : List Char} (found : afterQuoted? cs = some rest) :
    rest.length < cs.length := by
  induction cs using afterQuoted?.induct generalizing rest with
  | case1 => cases found
  | case2 tail => cases found; simp
  | case3 c tail feed => simp [afterQuoted?, feed] at found
  | case4 c tail noFeed ih =>
    have bound := ih (by simpa [afterQuoted?, noFeed] using found)
    simp only [List.length_cons]
    omega
  | case5 => cases found
  | case6 c tail noQuote noEscape noEnd ih =>
    have bound := ih (by rwa [afterQuoted?] at found <;> assumption)
    simp only [List.length_cons]
    omega

-- The measure does not matter once it is large enough.
theorem emptyQuoted_measure {n m : Nat} {cs : List Char} (enough : cs.length ≤ n)
    (also : cs.length ≤ m) : emptyQuoted n cs = emptyQuoted m cs := by
  induction n generalizing m cs with
  | zero =>
    have empty : cs = [] := List.length_eq_zero_iff.mp (Nat.le_zero.mp enough)
    subst empty
    cases m <;> rfl
  | succ n ih =>
    cases cs with
    | nil => cases m <;> rfl
    | cons c rest =>
      simp only [List.length_cons] at enough also
      obtain ⟨k, rfl⟩ : ∃ k, m = k + 1 := ⟨m - 1, by omega⟩
      have tail : emptyQuoted n rest = emptyQuoted k rest := ih (by omega) (by omega)
      simp only [emptyQuoted]
      split
      · split
        · next more found =>
          have shorter := afterQuoted?_shorter found
          have after : emptyQuoted n more = emptyQuoted k more := ih (by omega) (by omega)
          rw [after]
        · rw [tail]
      · rw [tail]

theorem unquoted_nil : unquoted [] = [] := rfl

theorem unquoted_cons {c : Char} (other : c ≠ '"') (rest : List Char) :
    unquoted (c :: rest) = c :: unquoted rest := by
  simp [unquoted, emptyQuoted, other]

theorem unquoted_append {a : List Char} (plain : '"' ∉ a) (b : List Char) :
    unquoted (a ++ b) = a ++ unquoted b := by
  induction a with
  | nil => rfl
  | cons c a ih =>
    obtain ⟨first, rest⟩ := not_or.mp (List.mem_cons.not.mp plain)
    rw [List.cons_append, unquoted_cons (Ne.symm first), ih rest, List.cons_append]

theorem afterQuoted?_escape (pattern rest : List Char) :
    afterQuoted? (Clause.escape pattern ++ '"' :: rest) = some rest := by
  induction pattern with
  | nil => rfl
  | cons c pattern ih =>
    have tail : afterQuoted? (Clause.escape pattern ++ '"' :: rest) = some rest := ih
    simp only [Clause.escape, List.flatMap_cons, List.append_assoc] at tail ⊢
    by_cases quote : c = '"'
    · subst quote; simpa [afterQuoted?] using tail
    by_cases slash : c = '\\'
    · subst slash; simpa [afterQuoted?] using tail
    simpa [afterQuoted?, quote, slash] using tail

theorem unquoted_quoted (pattern rest : List Char) :
    unquoted ('"' :: (Clause.escape pattern ++ '"' :: rest)) = '"' :: '"' :: unquoted rest := by
  simp only [unquoted, emptyQuoted, List.length_cons, beq_self_eq_true, if_true,
    afterQuoted?_escape]
  congr 2
  exact emptyQuoted_measure (by simp; omega) (Nat.le_refl _)

end SloCompiler.Check
