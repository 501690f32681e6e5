import SloCompiler.Text.Percent

namespace SloCompiler.Text

-- Reading percent-encoded texts back. Nothing here is used to write them.

def hexValue? (c : Char) : Option Nat :=
  if c.isDigit then some (c.toNat - 48)
  else if 'A' ≤ c ∧ c ≤ 'F' then some (c.toNat - 55)
  else if 'a' ≤ c ∧ c ≤ 'f' then some (c.toNat - 87)
  else none

def hexByte? (high low : Char) : Option UInt8 :=
  (hexValue? high).bind fun h => (hexValue? low).map fun l => UInt8.ofNat (16 * h + l)

def percentBytes : List Char → List UInt8
  | [] => []
  | c :: rest =>
    match c, rest with
    | '%', high :: low :: more =>
      match hexByte? high low with
      | some b => b :: percentBytes more
      | none => String.utf8EncodeChar '%' ++ percentBytes (high :: low :: more)
    | c, rest => String.utf8EncodeChar c ++ percentBytes rest

def percentDecode? (s : String) : Option String :=
  (percentBytes s.toList).toByteArray.utf8Decode?.map fun cs => String.ofList cs.toList

theorem hexValue?_digitChar {d : Nat} (digit : d < 16) :
    hexValue? (Nat.digitChar d).toUpper = some d := by
  revert d
  decide

theorem hexDigits_two {n : Nat} (bound : n < 256) :
    hexDigits 2 n = [Nat.digitChar (n / 16), Nat.digitChar (n % 16)] := by
  have high : n / 16 < 16 := Nat.div_lt_of_lt_mul bound
  rw [hexDigits, Nat.toDigits_eq_if (by decide)]
  split
  · next small =>
    rw [Nat.div_eq_of_lt small, Nat.mod_eq_of_lt small]
    rfl
  · rw [Nat.toDigits_of_lt_base high]
    rfl

theorem percentBytes_byte (b : UInt8) (rest : List Char) :
    percentBytes (percentByte b ++ rest) = b :: percentBytes rest := by
  have bound : b.toNat < 256 := b.toNat_lt
  have read : hexByte? (Nat.digitChar (b.toNat / 16)).toUpper
      (Nat.digitChar (b.toNat % 16)).toUpper = some b := by
    rw [hexByte?, hexValue?_digitChar (Nat.div_lt_of_lt_mul bound),
      hexValue?_digitChar (Nat.mod_lt _ (by decide)), Option.bind_some, Option.map_some,
      Nat.div_add_mod, UInt8.ofNat_toNat]
  simp only [percentByte, hexDigits_two bound, List.map_cons, List.map_nil, List.cons_append,
    List.nil_append]
  rw [percentBytes]
  simp only [read]

theorem percentBytes_bytes (bytes : List UInt8) (rest : List Char) :
    percentBytes (bytes.flatMap percentByte ++ rest) = bytes ++ percentBytes rest := by
  induction bytes with
  | nil => rfl
  | cons b bytes ih =>
    rw [List.flatMap_cons, List.append_assoc, percentBytes_byte, ih, List.cons_append]

theorem percentBytes_other {c : Char} (other : c ≠ '%') (rest : List Char) :
    percentBytes (c :: rest) = String.utf8EncodeChar c ++ percentBytes rest := by
  rw [percentBytes]
  exact fun _ _ _ percent _ => other percent

theorem percentBytes_percentEncode (s : String) :
    percentBytes (percentEncode s).toList = s.toList.flatMap String.utf8EncodeChar := by
  rw [percentEncode, String.toList_ofList]
  induction s.toList with
  | nil => rfl
  | cons c cs ih =>
    rw [List.flatMap_cons, List.flatMap_cons, ← ih]
    split
    · next unreserved =>
      have other : c ≠ '%' := fun percent => absurd (percent ▸ unreserved) (by decide)
      rw [List.cons_append, percentBytes_other other, List.nil_append]
    · rw [percentBytes_bytes]

theorem percentDecode?_percentEncode (s : String) : percentDecode? (percentEncode s) = some s := by
  have whole : (s.toList.flatMap String.utf8EncodeChar).toByteArray.utf8Decode? =
      some s.toList.toArray := List.utf8Decode?_utf8Encode
  rw [percentDecode?, percentBytes_percentEncode, whole, Option.map_some, String.ofList_toList]

end SloCompiler.Text
