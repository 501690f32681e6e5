import Mathlib.Data.List.Basic
import Mathlib.Data.List.TakeWhile
import SloCompiler.Duration
import SloCompiler.Number.Plain

namespace SloCompiler

def isNumeralChar (c : Char) : Bool := c.isDigit || "+-.aefin".toList.contains c

namespace Text

theorem mem_of_mem_dropWhile {drop : Char → Bool} {cs : List Char} {c : Char}
    (kept : c ∈ cs.dropWhile drop) : c ∈ cs :=
  (List.dropWhile_suffix drop).subset kept

theorem mem_of_mem_dropEndWhile {drop : Char → Bool} {cs : List Char} {c : Char}
    (kept : c ∈ dropEndWhile drop cs) : c ∈ cs := by
  have back := mem_of_mem_dropWhile (List.mem_reverse.mp kept)
  exact List.mem_reverse.mp back

theorem partWhile_append {take : Char → Bool} {front rest : List Char}
    (all : ∀ c ∈ front, take c = true) (stops : ∀ c, rest.head? = some c → take c = false) :
    (front ++ rest).takeWhile take = front ∧ (front ++ rest).dropWhile take = rest := by
  rw [List.takeWhile_append_of_pos all, List.dropWhile_append_of_pos all]
  cases rest with
  | nil => simp
  | cons c more => simp [stops c rfl]

end Text

namespace Binary64

theorem numeral_of_mem_toDigits {n : Nat} {c : Char} (digit : c ∈ Nat.toDigits 10 n) :
    isNumeralChar c = true := by
  have decimal : c.isDigit = true :=
    Nat.isDigit_of_mem_toDigits (by decide) (by decide) digit
  simp [isNumeralChar, decimal]

theorem numeral_of_mem_exponentText {exponent : Int} {c : Char}
    (present : c ∈ exponentText exponent) : isNumeralChar c = true := by
  have mark : ∀ d ∈ ['e', '+', '-', '0'], isNumeralChar d = true :=
    List.all_eq_true.mp rfl
  simp only [exponentText, List.mem_cons] at present
  rcases present with rfl | sign | digit
  · exact mark _ (by simp)
  · split at sign <;> exact sign ▸ mark _ (by simp)
  · split at digit
    · rcases List.mem_cons.mp digit with rfl | digit
      · exact mark _ (by simp)
      · exact numeral_of_mem_toDigits digit
    · exact numeral_of_mem_toDigits digit

theorem numeral_of_mem_scientific {d : Decimal} {c : Char} (present : c ∈ (scientific d).1) :
    isNumeralChar c = true :=
  numeral_of_mem_toDigits (Text.mem_of_mem_dropEndWhile present)

theorem numeral_of_mem_positional {digits : List Char} {exponent : Int} {c : Char}
    (numeral : ∀ d ∈ digits, isNumeralChar d = true) (present : c ∈ positional digits exponent) :
    isNumeralChar c = true := by
  have mark : ∀ d ∈ ['0', '.'], isNumeralChar d = true :=
    List.all_eq_true.mp rfl
  have padding {n : Nat} (zero : c ∈ List.replicate n '0') : isNumeralChar c = true :=
    List.eq_of_mem_replicate zero ▸ mark _ (by simp)
  unfold positional at present
  split at present
  · simp only [List.mem_cons, List.cons_append, List.mem_append] at present
    rcases present with rfl | rfl | zero | digit
    · exact mark _ (by simp)
    · exact mark _ (by simp)
    · exact padding zero
    · exact numeral c digit
  · simp only [List.mem_append, List.mem_cons] at present
    rcases present with (digit | zero) | rfl | right
    · exact numeral c (List.mem_of_mem_take digit)
    · exact padding zero
    · exact mark _ (by simp)
    · split at right
      · exact mark _ (by simpa using Or.inl right)
      · exact numeral c (List.mem_of_mem_drop right)

theorem numeral_of_mem_withExponent {digits : List Char} {exponent : Int} {c : Char}
    (numeral : ∀ d ∈ digits, isNumeralChar d = true)
    (present : c ∈ withExponent digits exponent) : isNumeralChar c = true := by
  match digits with
  | [] => cases present
  | [d] =>
    rcases List.mem_cons.mp present with rfl | power
    · exact numeral _ (by simp)
    · exact numeral_of_mem_exponentText power
  | d :: e :: more =>
    simp only [withExponent, List.cons_append, List.mem_cons, List.mem_append] at present
    rcases present with rfl | rfl | rfl | digit | power
    · exact numeral _ (by simp)
    · rfl
    · exact numeral _ (by simp)
    · exact numeral c (by simp [digit])
    · exact numeral_of_mem_exponentText power

theorem numeral_of_mem_magnitudeText {units : Nat} {c : Char}
    (present : c ∈ magnitudeText units) : isNumeralChar c = true := by
  have digits : ∀ d ∈ (scientific (shortest units)).1, isNumeralChar d = true :=
    fun _ => numeral_of_mem_scientific
  unfold magnitudeText at present
  split at present
  · have zero : ∀ d ∈ ['0', '.', '0'], isNumeralChar d = true :=
    List.all_eq_true.mp rfl
    exact zero c present
  · dsimp only at present
    split at present
    · exact numeral_of_mem_withExponent digits present
    · exact numeral_of_mem_positional digits present

theorem numeral_of_mem_text {x : Binary64} {c : Char} (present : c ∈ x.text.toList) :
    isNumeralChar c = true := by
  cases x with
  | nan => exact List.all_eq_true.mp (by decide : "nan".toList.all isNumeralChar = true) c present
  | infinity negative =>
    cases negative with
    | false =>
      exact List.all_eq_true.mp (by decide : "inf".toList.all isNumeralChar = true) c present
    | true =>
      exact List.all_eq_true.mp (by decide : "-inf".toList.all isNumeralChar = true) c present
  | finite negative units =>
    simp only [text, String.toList_ofList] at present
    split at present
    · rcases List.mem_cons.mp present with rfl | magnitude
      · rfl
      · exact numeral_of_mem_magnitudeText magnitude
    · exact numeral_of_mem_magnitudeText present

theorem numeral_of_mem_int {n : Int} {c : Char} (present : c ∈ (toString n).toList) :
    isNumeralChar c = true := by
  cases n with
  | ofNat n => exact numeral_of_mem_toDigits (by simpa [Int.repr, Nat.repr] using present)
  | negSucc n =>
    have shown : c = '-' ∨ c ∈ Nat.toDigits 10 (n + 1) := by
      simpa [Int.repr, Nat.repr] using present
    rcases shown with rfl | digit
    · rfl
    · exact numeral_of_mem_toDigits digit

-- A threshold holds none of the marks that structure an expression.
theorem numeral_of_mem_plain {x : Binary64} {c : Char} (present : c ∈ x.plain.toList) :
    isNumeralChar c = true := by
  unfold plain at present
  split at present
  · exact numeral_of_mem_int present
  · exact numeral_of_mem_text present

theorem plain_lacks (x : Binary64) {c : Char} (other : isNumeralChar c = false) :
    c ∉ x.plain.toList := by
  intro present
  rw [numeral_of_mem_plain present] at other
  cases other

end Binary64

end SloCompiler
