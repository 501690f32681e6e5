import SloCompiler.Comparison
import SloCompiler.Proofs.QueryTokens

namespace SloCompiler

inductive QueryOperator where
  | divide
  | compare (c : Comparison) (asNumber : Bool)
  | union
  deriving DecidableEq

-- What binds closer has the lower rank; operands have rank 0.
def QueryOperator.rank : QueryOperator → Nat
  | .divide => 1
  | .compare _ _ => 2
  | .union => 3

inductive Query where
  | word (s : String)
  | series (target : TargetMetric)
  | call (function : String) (argument : Query)
  | binary (operator : QueryOperator) (left right : Query)
  deriving DecidableEq

namespace Query

def operator? : List Token → Option (QueryOperator × List Token)
  | .word s :: rest =>
    if s = "/" then some (.divide, rest)
    else if s = "or" then some (.union, rest)
    else (Comparison.ofText? s).map fun c =>
      if rest.head? = some (.word "bool") then (.compare c true, rest.tail)
      else (.compare c false, rest)
  | _ => none

mutual

def readRank? : Nat → Nat → List Token → Option (Query × List Token)
  | 0, _, _ => none
  | _ + 1, 0, .word s :: .clauses selector :: rest => some (.series ⟨s, selector⟩, rest)
  | n + 1, 0, .word s :: .opening :: rest =>
    match readRank? n 3 rest with
    | some (q, .closing :: after) => some (.call s q, after)
    | _ => none
  | _ + 1, 0, .word s :: rest => some (.word s, rest)
  | n + 1, 0, .opening :: rest =>
    match readRank? n 3 rest with
    | some (q, .closing :: after) => some (q, after)
    | _ => none
  | _ + 1, 0, _ => none
  | n + 1, rank + 1, tokens =>
    (readRank? n rank tokens).bind fun (q, rest) => readMore? n rank q rest

def readMore? : Nat → Nat → Query → List Token → Option (Query × List Token)
  | 0, _, _, _ => none
  | n + 1, rank, left, tokens =>
    match operator? tokens with
    | some (operator, rest) =>
      if operator.rank = rank + 1 then
        (readRank? n rank rest).bind fun (right, after) =>
          readMore? n rank (.binary operator left right) after
      else some (left, tokens)
    | none => some (left, tokens)

end

-- No token takes more than five steps.
def ofTokens? (tokens : List Token) : Option Query :=
  match readRank? (5 * tokens.length + 4) 3 tokens with
  | some (q, []) => some q
  | _ => none

def ofText? (s : String) : Option Query := (tokensFrom? [] s.toList).bind ofTokens?

structure Ends (rank : Nat) (rest : List Token) : Prop where
  outside : ∀ t, rest.head? = some t → t = .closing ∨ ∃ s, t = .word s
  looser : ∀ operator after, operator? rest = some (operator, after) → rank < operator.rank

theorem ends_nil (rank : Nat) : Ends rank [] where
  outside _ first := nomatch first
  looser _ _ found := nomatch found

theorem ends_closing (rank : Nat) (rest : List Token) : Ends rank (.closing :: rest) where
  outside _ first := .inl (Option.some.inj first).symm
  looser _ _ found := nomatch found

theorem ends_operator {rank : Nat} {s : String} {rest after : List Token}
    {operator : QueryOperator} (found : operator? (.word s :: rest) = some (operator, after))
    (looser : rank < operator.rank) : Ends rank (.word s :: rest) where
  outside _ first := .inr ⟨s, (Option.some.inj first).symm⟩
  looser _ _ again := by
    rw [found] at again
    cases again
    exact looser

theorem Ends.closer {rank : Nat} {rest : List Token} (ends : Ends (rank + 1) rest) :
    Ends rank rest where
  outside := ends.outside
  looser operator after found := Nat.lt_of_succ_lt (ends.looser operator after found)

theorem Ends.readMore? {rank : Nat} {rest : List Token} (ends : Ends (rank + 1) rest) (n : Nat)
    (q : Query) : readMore? (n + 1) rank q rest = some (q, rest) := by
  rw [Query.readMore?]
  split
  · next operator after found =>
    have looser := ends.looser operator after found
    rw [if_neg (by omega)]
  · rfl

def Reads (rank : Nat) (tokens : List Token) (q : Query) : Prop :=
  ∀ n rest, 5 * tokens.length + rank + 1 ≤ n → Ends rank rest →
    readRank? n rank (tokens ++ rest) = some (q, rest)

theorem reads_word (s : String) : Reads 0 [.word s] (.word s) := by
  intro n rest enough ends
  obtain ⟨m, rfl⟩ : ∃ m, n = m + 1 := ⟨n - 1, by omega⟩
  cases rest with
  | nil => rfl
  | cons t rest =>
    rcases ends.outside t rfl with rfl | ⟨s, rfl⟩
    · rfl
    · rfl

theorem reads_series (metric : String) (selector : List Clause) :
    Reads 0 [.word metric, .clauses selector] (.series ⟨metric, selector⟩) := by
  intro n rest enough _
  obtain ⟨m, rfl⟩ : ∃ m, n = m + 1 := ⟨n - 1, by omega⟩
  rfl

theorem reads_group {tokens : List Token} {q : Query} (inner : Reads 3 tokens q) :
    Reads 0 (.opening :: (tokens ++ [.closing])) q := by
  intro n rest enough _
  simp only [List.length_cons, List.length_append, List.length_nil] at enough
  obtain ⟨m, rfl⟩ : ∃ m, n = m + 1 := ⟨n - 1, by omega⟩
  have read := inner m (.closing :: rest) (by omega) (ends_closing 3 rest)
  rw [List.cons_append, List.append_assoc, List.singleton_append, readRank?, read]

theorem reads_call (s : String) {tokens : List Token} {q : Query} (inner : Reads 3 tokens q) :
    Reads 0 (.word s :: .opening :: (tokens ++ [.closing])) (.call s q) := by
  intro n rest enough _
  simp only [List.length_cons, List.length_append, List.length_nil] at enough
  obtain ⟨m, rfl⟩ : ∃ m, n = m + 1 := ⟨n - 1, by omega⟩
  have read := inner m (.closing :: rest) (by omega) (ends_closing 3 rest)
  rw [List.cons_append, List.cons_append, List.append_assoc, List.singleton_append, readRank?, read]

theorem Reads.loosen {rank : Nat} {tokens : List Token} {q : Query} (reads : Reads rank tokens q) :
    Reads (rank + 1) tokens q := by
  intro n rest enough ends
  obtain ⟨m, rfl⟩ : ∃ m, n = m + 2 := ⟨n - 2, by omega⟩
  have read := reads (m + 1) rest (by omega) ends.closer
  rw [readRank?, read]
  exact ends.readMore? m q

theorem reads_binary {rank : Nat} {left right : List Token} (marks : List Token) {p q : Query}
    {s : String} {operator : QueryOperator} (first : Reads rank left p) (second : Reads rank right q)
    (marked : ∀ rest, operator? (.word s :: (marks ++ (right ++ rest))) =
      some (operator, right ++ rest)) (ranked : operator.rank = rank + 1) :
    Reads (rank + 1) (left ++ .word s :: (marks ++ right)) (.binary operator p q) := by
  intro n rest enough ends
  simp only [List.length_cons, List.length_append] at enough
  obtain ⟨m, rfl⟩ : ∃ m, n = m + 3 := ⟨n - 3, by omega⟩
  have before := first (m + 2) _ (by omega) (ends_operator (marked rest) (by omega))
  have after := second (m + 1) rest (by omega) ends.closer
  rw [List.append_assoc, List.cons_append, List.append_assoc, readRank?, before, Option.bind_some]
  simp only [readMore?, marked rest, if_pos ranked, after, Option.bind_some]
  exact ends.readMore? m _

theorem ofText?_of_spells {s : String} {tokens : List Token} {q : Query}
    (spells : Spells s.toList tokens) (reads : Reads 3 tokens q) : ofText? s = some q := by
  have cut := spells [] fun _ first => nomatch first
  have read := reads _ [] (Nat.le_refl _) (ends_nil 3)
  have nothing : tokensFrom? [] [] = some [] := by simp [tokensFrom?, ended]
  rw [List.append_nil] at cut read
  rw [ofText?, cut, nothing]
  simp only [Option.map_some, List.append_nil, Option.bind_some, ofTokens?, read]

theorem isWord_or : IsWord "or" := .literal rfl rfl rfl
theorem isWord_slash : IsWord "/" := .literal rfl rfl rfl
theorem isWord_bool : IsWord "bool" := .literal rfl rfl rfl
theorem isWord_zero : IsWord "0" := .literal rfl rfl rfl
theorem isWord_vector : IsWord "vector" := .literal rfl rfl rfl
theorem isWord_count : IsWord "count" := .literal rfl rfl rfl
theorem isWord_sum : IsWord "sum" := .literal rfl rfl rfl

theorem isWord_comparison (c : Comparison) : IsWord c.text := by
  cases c <;> exact .literal rfl rfl rfl

theorem operator?_comparison (c : Comparison) (rest : List Token) :
    operator? (.word c.text :: rest) =
      if rest.head? = some (.word "bool") then some (.compare c true, rest.tail)
      else some (.compare c false, rest) := by
  have named : Comparison.ofText? c.text = some c ∧ c.text ≠ "/" ∧ c.text ≠ "or" := by
    cases c <;> decide
  rw [operator?, if_neg named.2.1, if_neg named.2.2, named.1]
  simp only [Option.map_some]
  split <;> rfl

def zero : Query := .call "vector" (.word "0")

end Query

namespace Expr
open Query

-- An expression is written so that its text is read as a query of some rank.
def ReadAs (e : Expr) (rank : Nat) (q : Query) : Prop :=
  ∃ tokens, Spells e.render.toList tokens ∧ Reads rank tokens q

variable {e left right : Expr} {p q : Query} {rank : Nat}

theorem ReadAs.loosen (reads : e.ReadAs rank q) : e.ReadAs (rank + 1) q := by
  obtain ⟨tokens, spells, reads⟩ := reads
  exact ⟨tokens, spells, reads.loosen⟩

theorem ReadAs.ofText? (reads : e.ReadAs 3 q) : Query.ofText? e.render = some q := by
  obtain ⟨tokens, spells, reads⟩ := reads
  exact ofText?_of_spells spells reads

theorem text_readAs {s : String} (word : IsWord s) : (text s).ReadAs 0 (.word s) :=
  ⟨[.word s], spells_word word, reads_word s⟩

theorem series_readAs {target : TargetMetric} (word : IsWord target.name) {selector : List Clause}
    (selects : selector ++ target.clauses ≠ []) :
    (series target selector).ReadAs 0 (.series ⟨target.name, selector ++ target.clauses⟩) := by
  obtain ⟨c, clauses, shape⟩ := List.exists_cons_of_ne_nil selects
  refine ⟨[.word target.name, .clauses (c :: clauses)], ?_, ?_⟩
  · rw [render_series, TargetMetric.series, shape]
    exact spells_series word c clauses
  · rw [shape]
    exact reads_series target.name (c :: clauses)

theorem group_readAs (inner : e.ReadAs 3 q) : (group e).ReadAs 0 q := by
  obtain ⟨tokens, spells, reads⟩ := inner
  refine ⟨.opening :: (tokens ++ [.closing]), ?_, reads_group reads⟩
  have shape : (group e).render.toList = '(' :: (e.render.toList ++ [')']) := by simp
  rw [shape]
  exact spells_group spells

theorem call_readAs {function : String} (word : IsWord function) (inner : e.ReadAs 3 q) :
    (call function e).ReadAs 0 (.call function q) := by
  obtain ⟨tokens, spells, reads⟩ := inner
  refine ⟨.word function :: .opening :: (tokens ++ [.closing]), ?_, reads_call function reads⟩
  have shape : (call function e).render.toList =
      function.toList ++ '(' :: (e.render.toList ++ [')']) := by simp
  rw [shape]
  exact spells_call word spells

theorem binary_spells {operation : String} {l m r : List Token}
    (before : Spells left.render.toList l) (between : Spells operation.toList m)
    (after : Spells right.render.toList r) :
    Spells (binary operation left right).render.toList (l ++ (m ++ r)) := by
  have shape : (binary operation left right).render.toList =
      left.render.toList ++ ' ' :: (operation.toList ++ ' ' :: right.render.toList) := by simp
  rw [shape]
  exact spells_blank before (spells_blank between after)

theorem union_readAs (first : left.ReadAs 2 p) (second : right.ReadAs 2 q) :
    (binary "or" left right).ReadAs 3 (.binary .union p q) := by
  obtain ⟨l, before, first⟩ := first
  obtain ⟨r, after, second⟩ := second
  exact ⟨_, binary_spells before (spells_word isWord_or) after,
    reads_binary [] first second (fun _ => rfl) rfl⟩

theorem quotient_readAs (first : left.ReadAs 0 p) (second : right.ReadAs 0 q) :
    (binary "/" left right).ReadAs 1 (.binary .divide p q) := by
  obtain ⟨l, before, first⟩ := first
  obtain ⟨r, after, second⟩ := second
  exact ⟨_, binary_spells before (spells_word isWord_slash) after,
    reads_binary [] first second (fun _ => rfl) rfl⟩

theorem comparison_readAs (c : Comparison) (first : left.ReadAs 1 p) {s : String} (word : IsWord s)
    (other : s ≠ "bool") :
    (binary c.text left (text s)).ReadAs 2 (.binary (.compare c false) p (.word s)) := by
  obtain ⟨l, before, first⟩ := first
  refine ⟨_, binary_spells before (spells_word (isWord_comparison c)) (spells_word word),
    reads_binary [] first (reads_word s).loosen (fun rest => ?_) rfl⟩
  rw [operator?_comparison, if_neg (by simpa using other)]
  rfl

theorem verdict_readAs (c : Comparison) (first : left.ReadAs 1 p) (second : right.ReadAs 1 q) :
    (binary (c.text ++ " bool") left right).ReadAs 2 (.binary (.compare c true) p q) := by
  obtain ⟨l, before, first⟩ := first
  obtain ⟨r, after, second⟩ := second
  have shape : (c.text ++ " bool").toList = c.text.toList ++ ' ' :: "bool".toList := by simp
  have between : Spells (c.text ++ " bool").toList ([.word c.text] ++ [.word "bool"]) := by
    rw [shape]
    exact spells_blank (spells_word (isWord_comparison c)) (spells_word isWord_bool)
  refine ⟨_, binary_spells before between after,
    reads_binary [.word "bool"] first second (fun rest => ?_) rfl⟩
  rw [operator?_comparison]
  exact if_pos rfl

theorem orZero_readAs (inner : e.ReadAs 2 q) :
    (orZero e).ReadAs 0 (.binary .union q Query.zero) := by
  have zero : (vector "0").ReadAs 0 Query.zero :=
    call_readAs isWord_vector (text_readAs isWord_zero).loosen.loosen.loosen
  exact group_readAs (union_readAs inner zero.loosen.loosen)

theorem safeRatio_readAs (numerator : left.ReadAs 0 p) (denominator : right.ReadAs 1 q) :
    (safeRatio left right).ReadAs 0
      (.binary .union (.binary .divide p (.binary (.compare .gt false) q (.word "0"))) Query.zero) := by
  have zero : (vector "0").ReadAs 0 Query.zero :=
    call_readAs isWord_vector (text_readAs isWord_zero).loosen.loosen.loosen
  have positive := comparison_readAs .gt denominator isWord_zero (by decide)
  have ratio := quotient_readAs numerator (group_readAs positive.loosen)
  exact group_readAs (union_readAs ratio.loosen zero.loosen.loosen)

end Expr

end SloCompiler
