namespace SloCompiler.Text

def base64Value? (c : Char) : Option Nat :=
  if c.isUpper then some (c.toNat - 65)
  else if c.isLower then some (c.toNat - 71)
  else if c.isDigit then some (c.toNat + 4)
  else if c == '+' then some 62
  else if c == '/' then some 63
  else none

-- Octets from sextets: `count` sextets of a group of four are read, whose bits not used yet are
-- `left`. Padding ends a group of two or three; other characters are passed over. A group that
-- nothing ends is refused.
def decodeBase64 (count left pads : Nat) : List Char → Option (List UInt8)
  | [] => if count = 0 then some [] else none
  | c :: rest =>
    if c == '=' then
      if count ≥ 2 then
        if count + pads + 1 ≥ 4 then some [] else decodeBase64 count left (pads + 1) rest
      else decodeBase64 count left pads rest
    else
      match base64Value? c with
      | none => decodeBase64 count left pads rest
      | some v =>
        match count with
        | 0 => decodeBase64 1 v 0 rest
        | 1 => (decodeBase64 2 (v % 16) 0 rest).map (UInt8.ofNat (left * 4 + v / 16) :: ·)
        | 2 => (decodeBase64 3 (v % 4) 0 rest).map (UInt8.ofNat (left * 16 + v / 4) :: ·)
        | _ => (decodeBase64 0 0 0 rest).map (UInt8.ofNat (left * 64 + v) :: ·)

def base64? (s : String) : Option (List UInt8) :=
  if s.toList.all (·.toNat < 128) then decodeBase64 0 0 0 s.toList else none

end SloCompiler.Text
