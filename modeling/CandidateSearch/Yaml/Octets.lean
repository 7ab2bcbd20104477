import CandidateSearch.Yaml.Fault

/-!
# Octets of a YAML text

Octets are written in digits of six bits, four digits for three octets.
-/

namespace CandidateSearch.Yaml

/-- The value of a character among the sixty-four digits. -/
def sextet? (c : Char) : Option Nat :=
  if 'A' ≤ c && c ≤ 'Z' then some (c.toNat - 'A'.toNat)
  else if 'a' ≤ c && c ≤ 'z' then some (c.toNat - 'a'.toNat + 26)
  else if c.isDigit then some (c.toNat - '0'.toNat + 52)
  else if c = '+' then some 62
  else if c = '/' then some 63
  else none

/-- The octets that digits of six bits stand for.  `held` counts the digits since the last whole
group of four and `bits` is the last of them; other characters are passed over, and equals signs
that fill up a group end the text. -/
def octetsFrom (held bits padding : Nat) : Text → Option (List UInt8)
  | [] => if held = 0 then some [] else none
  | '=' :: rest =>
    if 2 ≤ held then
      if 4 ≤ held + padding + 1 then some [] else octetsFrom held bits (padding + 1) rest
    else octetsFrom held bits padding rest
  | c :: rest =>
    match sextet? c with
    | none => octetsFrom held bits padding rest
    | some n =>
      let octet := fun (value : Nat) => UInt8.ofNat (value % 256)
      match held with
      | 0 => octetsFrom 1 n 0 rest
      | 1 => (octetsFrom 2 n 0 rest).map (octet (bits * 4 + n / 16) :: ·)
      | 2 => (octetsFrom 3 n 0 rest).map (octet (bits * 16 + n / 4) :: ·)
      | _ => (octetsFrom 0 0 0 rest).map (octet (bits * 64 + n) :: ·)

/-- The octets that a text stands for. -/
def octetsValue (t : Text) : Except Fault (List UInt8) :=
  if t.any (0x80 ≤ ·.toNat) then .error .badConstruction
  else
    match octetsFrom 0 0 0 t with
    | some octets => .ok octets
    | none => .error .badConstruction

end CandidateSearch.Yaml
