import SloCompiler.Proofs.SelectorReader

namespace SloCompiler

-- The words, brackets and selectors that the text of a query consists of. Nothing here is used to
-- write one.
namespace Query
open SelectorReader

inductive Token where
  | word (s : String)
  | clauses (selector : List Clause)
  | opening
  | closing
  deriving DecidableEq

def ended (word : List Char) (tokens : List Token) : List Token :=
  if word.isEmpty then tokens else .word (String.ofList word.reverse) :: tokens

def tokensFrom? (word cs : List Char) : Option (List Token) :=
  match cs with
  | [] => some (ended word [])
  | c :: rest =>
    if c == '\x7b' then
      match _found : readClauses? rest with
      | some (selector, after) => (tokensFrom? [] after).map (ended word <| .clauses selector :: ·)
      | none => none
    else if c == '(' then (tokensFrom? [] rest).map (ended word <| .opening :: ·)
    else if c == ')' then (tokensFrom? [] rest).map (ended word <| .closing :: ·)
    else if c == ' ' then (tokensFrom? [] rest).map (ended word)
    else tokensFrom? (c :: word) rest
termination_by cs.length
decreasing_by
  · have shorter := readClauses?_shorter _found
    simp only [List.length_cons]
    omega
  all_goals simp

def isMark (c : Char) : Bool := c == '\x7b' || c == '(' || c == ')' || c == ' '

def Parted (cs : List Char) : Prop := ∀ c, cs.head? = some c → isMark c = true

theorem parted_cons {c : Char} (mark : isMark c = true) (rest : List Char) : Parted (c :: rest) := by
  intro d first
  cases first
  exact mark

theorem tokensFrom?_letter {c : Char} (letter : isMark c = false) (word rest : List Char) :
    tokensFrom? word (c :: rest) = tokensFrom? (c :: word) rest := by
  simp only [isMark, Bool.or_eq_false_iff] at letter
  obtain ⟨⟨⟨brace, opening⟩, closing⟩, blank⟩ := letter
  rw [tokensFrom?]
  simp only [brace, opening, closing, blank]
  rfl

theorem tokensFrom?_letters {letters : List Char} (all : ∀ c ∈ letters, isMark c = false)
    (word rest : List Char) :
    tokensFrom? word (letters ++ rest) = tokensFrom? (letters.reverse ++ word) rest := by
  induction letters generalizing word with
  | nil => rfl
  | cons c letters ih =>
    rw [List.cons_append, tokensFrom?_letter (all c List.mem_cons_self),
      ih fun d later => all d (List.mem_cons_of_mem _ later)]
    simp

theorem tokensFrom?_opening (word rest : List Char) :
    tokensFrom? word ('(' :: rest) = (tokensFrom? [] rest).map (ended word <| .opening :: ·) := by
  rw [tokensFrom?, if_neg (by decide), if_pos (by decide)]

theorem tokensFrom?_closing (word rest : List Char) :
    tokensFrom? word (')' :: rest) = (tokensFrom? [] rest).map (ended word <| .closing :: ·) := by
  rw [tokensFrom?, if_neg (by decide), if_neg (by decide), if_pos (by decide)]

theorem tokensFrom?_blank (word rest : List Char) :
    tokensFrom? word (' ' :: rest) = (tokensFrom? [] rest).map (ended word) := by
  rw [tokensFrom?, if_neg (by decide), if_neg (by decide), if_neg (by decide), if_pos (by decide)]

theorem tokensFrom?_selector {rest after : List Char} {selector : List Clause} (word : List Char)
    (read : readClauses? rest = some (selector, after)) :
    tokensFrom? word ('\x7b' :: rest) =
      (tokensFrom? [] after).map (ended word <| .clauses selector :: ·) := by
  rw [tokensFrom?, if_pos (by decide)]
  split <;> simp_all

theorem tokensFrom?_parted {rest : List Char} (parted : Parted rest) (word : List Char) :
    tokensFrom? word rest = (tokensFrom? [] rest).map (ended word) := by
  cases rest with
  | nil => simp [tokensFrom?, ended]
  | cons c rest =>
    have mark := parted c rfl
    simp only [isMark, Bool.or_eq_true, beq_iff_eq] at mark
    rcases mark with ((rfl | rfl) | rfl) | rfl
    · cases read : readClauses? rest with
      | some found =>
        obtain ⟨selector, after⟩ := found
        rw [tokensFrom?_selector word read, tokensFrom?_selector [] read, Option.map_map]
        rfl
      | none =>
        have unread (before : List Char) : tokensFrom? before ('\x7b' :: rest) = none := by
          rw [tokensFrom?, if_pos (by decide)]
          split <;> simp_all
        rw [unread, unread, Option.map_none]
    · rw [tokensFrom?_opening, tokensFrom?_opening [], Option.map_map]
      rfl
    · rw [tokensFrom?_closing, tokensFrom?_closing [], Option.map_map]
      rfl
    · rw [tokensFrom?_blank, tokensFrom?_blank [], Option.map_map]
      rfl

-- A text is cut into these tokens, whatever comes behind it.
def Spells (cs : List Char) (tokens : List Token) : Prop :=
  ∀ rest, Parted rest → tokensFrom? [] (cs ++ rest) = (tokensFrom? [] rest).map (tokens ++ ·)

structure IsWord (s : String) : Prop where
  some_letter : s.toList ≠ []
  letters : ∀ c ∈ s.toList, isMark c = false

theorem IsWord.literal {s : String} {cs : List Char} (written : s = String.ofList cs)
    (some_letter : cs.isEmpty = false) (letters : cs.all (!isMark ·) = true) : IsWord s where
  some_letter := by
    rw [written, String.toList_ofList]
    exact List.isEmpty_eq_false_iff.mp some_letter
  letters := by
    rw [written, String.toList_ofList]
    intro c present
    simpa using List.all_eq_true.mp letters c present

theorem IsWord.before {s : String} (word : IsWord s) {rest : List Char} (parted : Parted rest) :
    tokensFrom? [] (s.toList ++ rest) = (tokensFrom? [] rest).map (.word s :: ·) := by
  have read : ended s.toList.reverse = (.word s :: ·) := by
    funext tokens
    simp [ended, word.some_letter]
  rw [tokensFrom?_letters word.letters, List.append_nil, tokensFrom?_parted parted, read]

theorem spells_word {s : String} (word : IsWord s) : Spells s.toList [.word s] :=
  fun _ parted => word.before parted

theorem spells_blank {a b : List Char} {s t : List Token} (first : Spells a s)
    (second : Spells b t) : Spells (a ++ ' ' :: b) (s ++ t) := by
  intro rest parted
  have blank : Parted (' ' :: (b ++ rest)) := parted_cons (by decide) _
  rw [List.append_assoc, List.cons_append, first _ blank, tokensFrom?_blank, second rest parted]
  simp [Function.comp_def, ended]

theorem spells_group {cs : List Char} {tokens : List Token} (inner : Spells cs tokens) :
    Spells ('(' :: (cs ++ [')'])) (.opening :: (tokens ++ [.closing])) := by
  intro rest _
  have closing : Parted (')' :: rest) := parted_cons (by decide) _
  rw [List.cons_append, List.append_assoc, List.singleton_append, tokensFrom?_opening,
    inner _ closing, tokensFrom?_closing]
  simp [Function.comp_def, ended]

theorem spells_call {s : String} (word : IsWord s) {cs : List Char} {tokens : List Token}
    (inner : Spells cs tokens) :
    Spells (s.toList ++ '(' :: (cs ++ [')'])) (.word s :: .opening :: (tokens ++ [.closing])) := by
  intro rest parted
  have opening : Parted ('(' :: (cs ++ [')']) ++ rest) := parted_cons (by decide) _
  rw [List.append_assoc, word.before opening, spells_group inner rest parted, Option.map_map]
  rfl

theorem spells_series {metric : String} (word : IsWord metric) (c : Clause)
    (clauses : List Clause) :
    Spells (renderSeries metric (c :: clauses)).toList [.word metric, .clauses (c :: clauses)] := by
  intro rest _
  have read := readClauses?_render c clauses rest
  have brace : Parted ('\x7b' :: ([',', ' '].intercalate
      ((c :: clauses).map fun d => d.render.toList) ++ '\x7d' :: rest)) := parted_cons (by decide) _
  rw [renderSeries_toList]
  simp only [List.isEmpty_cons, Bool.false_eq_true, if_false, List.append_assoc, List.cons_append,
    List.nil_append]
  rw [word.before brace, tokensFrom?_selector [] read, Option.map_map]
  rfl

end Query

end SloCompiler
