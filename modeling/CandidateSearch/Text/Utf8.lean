import CandidateSearch.Text.Basic

/-!
# UTF-8

`decodeUtf8` reads octets as text, or says where the octets stop being UTF-8 and why.  A first octet
fixes how many octets follow it and what the next one may be, which rules out overlong forms,
surrogates and code points beyond the last.
-/

namespace CandidateSearch

/-- Why octets are not UTF-8. -/
inductive Utf8Fault where
  /-- No character begins with this octet. -/
  | startOctet
  /-- An octet cannot continue the character that was begun. -/
  | continuation
  /-- The octets end within a character. -/
  | truncated
  deriving DecidableEq, Repr

/-- The stretch of octets, from `start` to just before `stop`, that is not UTF-8. -/
structure Utf8Error where
  fault : Utf8Fault
  start : Nat
  stop : Nat
  /-- The first octet of the stretch. -/
  octet : UInt8
  deriving DecidableEq, Repr

/-- What a first octet announces: its share of the code point, how many octets follow, and the
bounds of the next one. -/
structure Utf8Lead where
  share : Nat
  more : Nat
  least : UInt8
  greatest : UInt8

/-- What a first octet announces, if a character can begin with it. -/
def utf8Lead? (b : UInt8) : Option Utf8Lead :=
  if b < 0x80 then some ⟨b.toNat, 0, 0x80, 0xBF⟩
  else if b < 0xC2 then none
  else if b < 0xE0 then some ⟨b.toNat - 0xC0, 1, 0x80, 0xBF⟩
  else if b < 0xF0 then
    some ⟨b.toNat - 0xE0, 2, if b = 0xE0 then 0xA0 else 0x80, if b = 0xED then 0x9F else 0xBF⟩
  else if b < 0xF5 then
    some ⟨b.toNat - 0xF0, 3, if b = 0xF0 then 0x90 else 0x80, if b = 0xF4 then 0x8F else 0xBF⟩
  else none

/-- Why a character that was begun cannot be finished, and how many octets it has so far. -/
structure Utf8Break where
  fault : Utf8Fault
  read : Nat

/-- Read `more` further octets of a character, the next one within its bounds.  `read` counts the
octets so far and `value` is what they say. -/
def utf8Tail (value read : Nat) (least greatest : UInt8) :
    (more : Nat) → List UInt8 → Except Utf8Break (Nat × List UInt8)
  | 0, rest => .ok (value, rest)
  | _ + 1, [] => .error ⟨.truncated, read⟩
  | more + 1, b :: rest =>
    if least ≤ b && b ≤ greatest then
      utf8Tail (64 * value + (b.toNat - 0x80)) (read + 1) 0x80 0xBF more rest
    else .error ⟨.continuation, read⟩

/-- The octets that remain behind a character are no more than there were. -/
theorem length_of_utf8Tail {value read : Nat} {least greatest : UInt8} {more : Nat}
    {octets rest : List UInt8} {n : Nat}
    (h : utf8Tail value read least greatest more octets = .ok (n, rest)) :
    rest.length ≤ octets.length := by
  induction more generalizing value read least greatest octets with
  | zero => simp [utf8Tail] at h; simp [h]
  | succ more ih =>
    cases octets with
    | nil => simp [utf8Tail] at h
    | cons b octets =>
      unfold utf8Tail at h
      split at h
      · exact Nat.le_succ_of_le (ih h)
      · simp at h

/-- The text of octets that begin at a position of the whole. -/
def decodeUtf8From (pos : Nat) (octets : List UInt8) : Except Utf8Error Text :=
  match octets with
  | [] => .ok []
  | b :: rest =>
    match utf8Lead? b with
    | none => .error ⟨.startOctet, pos, pos + 1, b⟩
    | some lead =>
      match h : utf8Tail lead.share 1 lead.least lead.greatest lead.more rest with
      | .error e => .error ⟨e.fault, pos, pos + e.read, b⟩
      | .ok (n, beyond) =>
        have := length_of_utf8Tail h
        (decodeUtf8From (pos + lead.more + 1) beyond).map (Char.ofNat n :: ·)
  termination_by octets.length
  decreasing_by simp only [List.length_cons]; omega

/-- The text of octets. -/
def decodeUtf8 (octets : List UInt8) : Except Utf8Error Text := decodeUtf8From 0 octets

/-- How many octets a character takes. -/
def utf8Width (c : Char) : Nat :=
  if c.toNat < 0x80 then 1 else if c.toNat < 0x800 then 2 else if c.toNat < 0x10000 then 3 else 4

/-- How many octets a text takes. -/
def octetLength (t : Text) : Nat := t.foldl (fun n c => n + utf8Width c) 0

end CandidateSearch
