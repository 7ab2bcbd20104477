import CandidateSearch.Json.Print
import CandidateSearch.Proofs.Text
import CandidateSearch.Yaml.Scalar
import Mathlib.Tactic.SplitIfs

/-!
# JSON text is read back

A decoder of JSON goes through a text character by character.  It keeps in mind the arrays and
objects that are open and what may come next, and is as strict as the notation: strings hold no
control character and no unknown escape, numbers no zeros in front, and every comma stands between
two items.  What is written is read back by it, for every value, at every level of nesting and
whatever characters its strings hold.

* `run_stringCharacter`: a character inside a string, escaped or not, is read as that character;
* `wordValue?_intDigits`: so is a whole number;
* `run_printAt`: a value that is written is read, wherever a value may stand;
* `decode?_print`: the text of a value denotes that value.
-/

namespace CandidateSearch.Json

/-! ## What may come next -/

/-- An array or object that is open, with what it holds so far. -/
inductive Pending where
  | array (items : List Json)
  /-- The value of a key is being read. -/
  | object (fields : List (Text × Json)) (key : Text)

/-- What may come next. -/
inductive Expected where
  | value
  /-- A key of an object that holds these fields so far. -/
  | key (fields : List (Text × Json))
  | colon (fields : List (Text × Json)) (key : Text)
  /-- Nothing, but for what goes on behind a value. -/
  | done (v : Json)

/-- The arrays and objects that are open, the innermost first, and what may come next. -/
structure Reading where
  around : List Pending
  next : Expected

/-- A character that stands outside of strings and words and is no blank. -/
inductive Mark where
  | openArray
  | closeArray
  | openObject
  | closeObject
  | comma
  | colon

/-- The mark that a character is. -/
def Mark.ofChar? (c : Char) : Option Mark :=
  if c = '[' then some .openArray
  else if c = ']' then some .closeArray
  else if c = '\x7b' then some .openObject
  else if c = '\x7d' then some .closeObject
  else if c = ',' then some .comma
  else if c = ':' then some .colon
  else none

namespace Reading

/-- A mark, where it may stand.  An array or object is closed right behind the mark that opens it or
behind a value, so no comma stands in front of its end. -/
def mark (r : Reading) (m : Mark) : Option Reading :=
  match m, r.next, r.around with
  | .openArray, .value, around => some ⟨.array [] :: around, .value⟩
  | .closeArray, .value, .array [] :: around => some ⟨around, .done (.array [])⟩
  | .closeArray, .done v, .array items :: around => some ⟨around, .done (.array (items ++ [v]))⟩
  | .openObject, .value, around => some ⟨around, .key []⟩
  | .closeObject, .key [], around => some ⟨around, .done (.object [])⟩
  | .closeObject, .done v, .object fields key :: around =>
    some ⟨around, .done (.object (fields ++ [(key, v)]))⟩
  | .comma, .done v, .array items :: around => some ⟨.array (items ++ [v]) :: around, .value⟩
  | .comma, .done v, .object fields key :: around => some ⟨around, .key (fields ++ [(key, v)])⟩
  | .colon, .colon fields key, around => some ⟨.object fields key :: around, .value⟩
  | _, _, _ => none

/-- A value that is neither array nor object, where it may stand; a key is a text. -/
def scalar (r : Reading) (v : Json) : Option Reading :=
  match r.next, v with
  | .value, v => some { r with next := .done v }
  | .key fields, .text key => some { r with next := .colon fields key }
  | _, _ => none

end Reading

/-! ## Words -/

/-- The digits are a number without zeros in front. -/
def isNumeral (digits : Text) : Bool :=
  !digits.isEmpty && digits.all Char.isDigit && (digits.head? != some '0' || digits == ['0'])

/-- The number that digits stand for. -/
def natOf? (digits : Text) : Option Nat :=
  if isNumeral digits then some (Nat.ofDigitChars 10 digits 0) else none

/-- The whole number that a word stands for. -/
def intOf? : Text → Option Int
  | '-' :: digits => (natOf? digits).map fun n : Nat => -(n : Int)
  | digits => (natOf? digits).map Int.ofNat

/-- The value that a word stands for. -/
def wordValue? (w : Text) : Option Json :=
  match intOf? w with
  | some n => some (.int n)
  | none =>
    if w = "null".toList then some .null
    else if w = "true".toList then some (.bool true)
    else if w = "false".toList then some (.bool false)
    else none

/-! ## Decoding -/

/-- The character that a letter behind a backslash stands for. -/
def unescape? (letter : Char) : Option Char :=
  if letter = '"' ∨ letter = '\\' ∨ letter = '/' then some letter
  else if letter = 'n' then some '\n'
  else if letter = 'r' then some '\r'
  else if letter = 't' then some '\t'
  else if letter = 'b' then some (Char.ofNat 8)
  else if letter = 'f' then some (Char.ofNat 12)
  else none

/-- A character that only separates words and marks. -/
def isSpace (c : Char) : Bool := c == ' ' || c == '\n' || c == '\r' || c == '\t'

/-- What the decoder stands in. -/
inductive Mode where
  | between
  | word (w : Text)
  /-- A string that begins with these characters, or halves of them. -/
  | string (s : LooseText)
  /-- A string behind a backslash. -/
  | escape (s : LooseText)
  /-- A string in which a character is given by its number, of which these digits are read. -/
  | number (s : LooseText) (digits : Text)

/-- The decoder between two characters of a text. -/
structure Decoder where
  mode : Mode
  reading : Reading

namespace Decoder

/-- A character outside of strings and words. -/
def stepBetween (r : Reading) (c : Char) : Option Decoder :=
  if isSpace c then some ⟨.between, r⟩
  else if c = '"' then some ⟨.string [], r⟩
  else
    match Mark.ofChar? c with
    | some m => (r.mark m).map (⟨.between, ·⟩)
    | none => some ⟨.word [c], r⟩

/-- The character ends a word. -/
def endsWord (c : Char) : Bool := isSpace c || c == '"' || (Mark.ofChar? c).isSome

/-- One character. -/
def step (d : Decoder) (c : Char) : Option Decoder :=
  match d.mode with
  | .between => stepBetween d.reading c
  | .word w =>
    if endsWord c then ((wordValue? w).bind d.reading.scalar).bind (stepBetween · c)
    else some { d with mode := .word (w ++ [c]) }
  | .string s =>
    if c = '"' then
      (s.paired.strict?.bind fun t => d.reading.scalar (.text t)).map (⟨.between, ·⟩)
    else if c = '\\' then some { d with mode := .escape s }
    else if c.toNat < 32 then none
    else some { d with mode := .string (s ++ [.char c]) }
  | .escape s =>
    if c = 'u' then some { d with mode := .number s [] }
    else (unescape? c).map fun e => { d with mode := .string (s ++ [.char e]) }
  | .number s digits =>
    if digits.length < 3 then some { d with mode := .number s (digits ++ [c]) }
    else
      ((Yaml.hexValue? (digits ++ [c])).bind CodePoint.ofNat?).map fun p =>
        { d with mode := .string (s ++ [p]) }

/-- All characters of a text, one after the other. -/
def run (d : Decoder) (t : Text) : Option Decoder := t.foldlM step d

end Decoder

/-- The value that a text denotes.  A last word is complete when the line ends. -/
def decode? (t : Text) : Option Json :=
  match Decoder.run ⟨.between, [], .value⟩ (t ++ ['\n']) with
  | some ⟨.between, [], .done v⟩ => some v
  | _ => none

/-! ## Reading on -/

namespace Decoder

theorem run_nil (d : Decoder) : d.run [] = some d := rfl

/-- One character after the other. -/
theorem run_cons (d : Decoder) (c : Char) (rest : Text) :
    d.run (c :: rest) = (d.step c).bind (·.run rest) := rfl

/-- A character that is read. -/
theorem run_cons_of_step {d next : Decoder} {c : Char} (h : d.step c = some next) (rest : Text) :
    d.run (c :: rest) = next.run rest := by
  rw [run_cons, h, Option.bind_some]

/-- Blanks between values are passed over. -/
theorem run_spaces (r : Reading) {blanks : Text} (h : ∀ c ∈ blanks, isSpace c = true) (rest : Text) :
    run ⟨.between, r⟩ (blanks ++ rest) = run ⟨.between, r⟩ rest := by
  induction blanks with
  | nil => rfl
  | cons c blanks ih =>
    rw [List.forall_mem_cons] at h
    have hstep : step ⟨.between, r⟩ c = some ⟨.between, r⟩ := by
      show stepBetween r c = _
      rw [stepBetween, if_pos h.1]
    rw [List.cons_append, run_cons_of_step hstep, ih h.2]

/-- So is the beginning of a line. -/
theorem run_newLine (r : Reading) (level : Nat) (rest : Text) :
    run ⟨.between, r⟩ (newLine level ++ rest) = run ⟨.between, r⟩ rest := by
  apply run_spaces
  intro c hc
  rw [newLine, List.mem_cons, List.mem_replicate] at hc
  rcases hc with rfl | ⟨-, rfl⟩ <;> decide

/-! ## Strings -/

/-- Four digits give a character by its number. -/
theorem run_number (s : LooseText) (r : Reading) {digits : Text} (h : digits.length = 4)
    (rest : Text) :
    run ⟨.number s [], r⟩ (digits ++ rest)
      = ((Yaml.hexValue? digits).bind CodePoint.ofNat?).bind fun p =>
          run ⟨.string (s ++ [p]), r⟩ rest := by
  match digits, h with
  | [a, b, c, d], _ =>
    show (((Yaml.hexValue? [a, b, c, d]).bind CodePoint.ofNat?).map _).bind _ = _
    rw [Option.bind_map]
    rfl

/-- The digits of a control character. -/
theorem hexValue?_hexDigits {n : Nat} (h : n < 32) :
    (hexDigits 4 n).length = 4 ∧ Yaml.hexValue? (hexDigits 4 n) = some n := by
  have hall : ∀ n < 32,
      (hexDigits 4 n).length = 4 ∧ Yaml.hexValue? (hexDigits 4 n) = some n := by
    decide +kernel
  exact hall n h

/-- A code point below the halves is a character. -/
theorem ofNat?_toNat {c : Char} (h : c.toNat < 32) : CodePoint.ofNat? c.toNat = some (.char c) := by
  rw [CodePoint.ofNat?, dif_neg (by omega), if_pos (by omega), Char.ofNat_toNat]

/-- **A character inside a string, escaped or not, is read as that character.** -/
theorem run_stringCharacter (s : LooseText) (r : Reading) (c : Char) (rest : Text) :
    run ⟨.string s, r⟩ (stringCharacter c ++ rest) = run ⟨.string (s ++ [.char c]), r⟩ rest := by
  have hescape : ∀ letter : Char, letter ≠ 'u' → unescape? letter = some c →
      run ⟨.string s, r⟩ ('\\' :: letter :: rest) = run ⟨.string (s ++ [.char c]), r⟩ rest := by
    intro letter hu hletter
    have hfirst : step ⟨.string s, r⟩ '\\' = some ⟨.escape s, r⟩ := rfl
    have hsecond : step ⟨.escape s, r⟩ letter = some ⟨.string (s ++ [.char c]), r⟩ := by
      show (if letter = 'u' then _ else _) = _
      rw [if_neg hu, hletter]
      rfl
    rw [run_cons_of_step hfirst, run_cons_of_step hsecond]
  have hcode : ∀ n, c.toNat = n → c = Char.ofNat n := by
    rintro n rfl
    exact (Char.ofNat_toNat c).symm
  unfold stringCharacter
  split_ifs with h1 h2 h3 h4 h5 h6 h7 h8
  · exact hescape '"' (by decide) (by rw [h1]; rfl)
  · exact hescape '\\' (by decide) (by rw [h2]; rfl)
  · exact hescape 'n' (by decide) (by rw [h3]; rfl)
  · exact hescape 'r' (by decide) (by rw [h4]; rfl)
  · exact hescape 't' (by decide) (by rw [h5]; rfl)
  · exact hescape 'b' (by decide) (by rw [hcode 8 h6]; rfl)
  · exact hescape 'f' (by decide) (by rw [hcode 12 h7]; rfl)
  · obtain ⟨hlength, hvalue⟩ := hexValue?_hexDigits h8
    have hfirst : step ⟨.string s, r⟩ '\\' = some ⟨.escape s, r⟩ := rfl
    have hsecond : step ⟨.escape s, r⟩ 'u' = some ⟨.number s [], r⟩ := rfl
    show run _ ('\\' :: 'u' :: (hexDigits 4 c.toNat ++ rest)) = _
    rw [run_cons_of_step hfirst, run_cons_of_step hsecond, run_number s r hlength, hvalue,
      Option.bind_some, ofNat?_toNat h8, Option.bind_some]
  · -- every other character stands for itself
    have hstep : step ⟨.string s, r⟩ c = some ⟨.string (s ++ [.char c]), r⟩ := by
      show (if c = '"' then _ else if c = '\\' then _ else if c.toNat < 32 then _ else _) = _
      rw [if_neg h1, if_neg h2, if_neg h8]
    exact run_cons_of_step hstep rest

/-- The characters of a string, one after the other. -/
theorem run_stringCharacters (s : LooseText) (r : Reading) (t rest : Text) :
    run ⟨.string s, r⟩ (t.flatMap stringCharacter ++ rest)
      = run ⟨.string (s ++ t.loose), r⟩ rest := by
  induction t generalizing s with
  | nil => rw [Text.loose, List.map_nil, List.append_nil]; rfl
  | cons c t ih =>
    rw [List.flatMap_cons, List.append_assoc, run_stringCharacter, ih, List.append_assoc]
    rfl

/-- **A string is read as its text**, where a text may stand. -/
theorem run_quote {r next : Reading} {t : Text} (h : r.scalar (.text t) = some next) (rest : Text) :
    run ⟨.between, r⟩ (quote t ++ rest) = run ⟨.between, next⟩ rest := by
  have hopen : step ⟨.between, r⟩ '"' = some ⟨.string [], r⟩ := rfl
  have hclose : step ⟨.string t.loose, r⟩ '"' = some ⟨.between, next⟩ := by
    show (t.loose.paired.strict?.bind fun t => r.scalar (.text t)).map (Decoder.mk .between) = _
    rw [LooseText.paired_loose, LooseText.strict?_loose, Option.bind_some, h, Option.map_some]
  rw [quote, List.cons_append, List.cons_append, run_cons_of_step hopen, List.append_assoc,
    run_stringCharacters, List.nil_append, List.singleton_append, run_cons_of_step hclose]

/-! ## Words -/

/-- The characters that end words. -/
def wordEnds : Text := [' ', '\n', '\r', '\t', '"', '[', ']', '\x7b', '\x7d', ',', ':']

theorem endsWord_iff {c : Char} : endsWord c = true ↔ c ∈ wordEnds := by
  simp only [endsWord, isSpace, Mark.ofChar?, wordEnds]
  split_ifs <;> simp_all [or_assoc]

/-- The text goes on with a character that ends words. -/
def Breaks (rest : Text) : Prop := ∃ c beyond, rest = c :: beyond ∧ endsWord c = true

/-- A word reaches up to a character that ends it. -/
theorem run_word {r next : Reading} {w front : Text} {v : Json}
    (hw : ∀ c ∈ w, endsWord c = false) (hv : wordValue? (front ++ w) = some v)
    (h : r.scalar v = some next) {rest : Text} (hrest : Breaks rest) :
    run ⟨.word front, r⟩ (w ++ rest) = run ⟨.between, next⟩ rest := by
  induction w generalizing front with
  | nil =>
    obtain ⟨c, beyond, rfl, hc⟩ := hrest
    have hstep : step ⟨.word front, r⟩ c = step ⟨.between, next⟩ c := by
      show (if endsWord c then ((wordValue? front).bind r.scalar).bind (stepBetween · c) else _) = _
      rw [if_pos hc, ← List.append_nil front, hv, Option.bind_some, h, Option.bind_some]
      rfl
    rw [List.nil_append, run_cons, hstep, run_cons]
  | cons c w ih =>
    rw [List.forall_mem_cons] at hw
    have hstep : step ⟨.word front, r⟩ c = some ⟨.word (front ++ [c]), r⟩ := by
      show (if endsWord c then _ else _) = _
      rw [if_neg (by simp [hw.1])]
    rw [List.cons_append, run_cons_of_step hstep]
    exact ih hw.2 (by rw [List.append_assoc, List.singleton_append, hv])

/-- **A word is read as its value**, where one may stand. -/
theorem run_scalar {r next : Reading} {w : Text} {v : Json} (hne : w ≠ [])
    (hw : ∀ c ∈ w, endsWord c = false) (hv : wordValue? w = some v) (h : r.scalar v = some next)
    {rest : Text} (hrest : Breaks rest) :
    run ⟨.between, r⟩ (w ++ rest) = run ⟨.between, next⟩ rest := by
  obtain ⟨c, w, rfl⟩ := List.exists_cons_of_ne_nil hne
  rw [List.forall_mem_cons] at hw
  have hstep : step ⟨.between, r⟩ c = some ⟨.word [c], r⟩ := by
    obtain ⟨⟨hspace, hquote⟩, hmark⟩ : (isSpace c = false ∧ c ≠ '"') ∧ Mark.ofChar? c = none := by
      simpa [endsWord] using hw.1
    show stepBetween r c = _
    rw [stepBetween, if_neg (by simp [hspace]), if_neg hquote, hmark]
  rw [List.cons_append, run_cons_of_step hstep]
  exact run_word hw.2 hv h hrest

end Decoder

/-! ## Numbers -/

/-- A number has digits, and nothing else. -/
theorem isDigit_of_mem_natDigits {n : Nat} : ∀ c ∈ natDigits n, c.isDigit = true := fun _ hc =>
  Nat.isDigit_of_mem_toDigits (by decide) (by decide) hc

/-- Every number has a digit. -/
theorem natDigits_ne_nil (n : Nat) : natDigits n ≠ [] := Nat.toDigits_ne_nil

/-- A positive number does not begin with zero. -/
theorem head?_natDigits {n : Nat} (h : 0 < n) : (natDigits n).head? ≠ some '0' := by
  have hdigit : ∀ n < 10, 0 < n → n.digitChar ≠ '0' := by decide
  induction n using Nat.strongRecOn with
  | ind n ih =>
    rw [natDigits, Nat.toDigits_eq_if (by decide)]
    split_ifs with hsmall
    · rw [List.head?_singleton]
      exact fun hzero => hdigit n hsmall h (Option.some.inj hzero)
    · have hfront := ih (n / 10) (Nat.div_lt_self h (by decide)) (Nat.div_pos (by omega) (by decide))
      obtain ⟨c, digits, hcons⟩ := List.exists_cons_of_ne_nil (natDigits_ne_nil (n / 10))
      rw [hcons] at hfront
      rw [← natDigits, hcons]
      exact hfront

/-- The digits of a number stand for it. -/
theorem natOf?_natDigits (n : Nat) : natOf? (natDigits n) = some n := by
  have hne := natDigits_ne_nil n
  have hdigits : (natDigits n).all Char.isDigit = true :=
    List.all_eq_true.mpr isDigit_of_mem_natDigits
  have hzeros : ((natDigits n).head? != some '0' || natDigits n == ['0']) = true := by
    rcases Nat.eq_zero_or_pos n with rfl | hpos
    · decide
    · rw [Bool.or_eq_true, bne_iff_ne]
      exact Or.inl (head?_natDigits hpos)
  rw [natOf?, if_pos (by rw [isNumeral, hdigits, hzeros]; simpa using hne), natDigits,
    Nat.ofDigitChars_ten_toDigits]

/-- The digits of a whole number stand for it. -/
theorem intOf?_intDigits (n : Int) : intOf? (intDigits n) = some n := by
  rw [intDigits]
  split_ifs with hneg
  · rw [intOf?, natOf?_natDigits, Option.map_some]
    congr 1
    omega
  · -- without a minus sign in front all of it is digits
    have hplain : intOf? (natDigits n.natAbs) = (natOf? (natDigits n.natAbs)).map Int.ofNat := by
      unfold intOf?
      split
      · next digits hminus =>
        have hmem : '-' ∈ natDigits n.natAbs := by
          rw [hminus]
          exact List.mem_cons_self
        exact absurd (isDigit_of_mem_natDigits _ hmem) (by decide)
      · rfl
    rw [hplain, natOf?_natDigits, Option.map_some, Int.ofNat_eq_natCast]
    congr 1
    omega

/-- **A whole number is read as its value.** -/
theorem wordValue?_intDigits (n : Int) : wordValue? (intDigits n) = some (.int n) := by
  rw [wordValue?, intOf?_intDigits]

/-- A whole number has a digit. -/
theorem intDigits_ne_nil (n : Int) : intDigits n ≠ [] := by
  rw [intDigits]
  split_ifs
  · exact List.cons_ne_nil _ _
  · exact natDigits_ne_nil _

/-- A whole number is one word. -/
theorem endsWord_of_mem_intDigits {n : Int} : ∀ c ∈ intDigits n, Decoder.endsWord c = false := by
  have hdigit : ∀ c : Char, c.isDigit = true → Decoder.endsWord c = false := by
    intro c hc
    rw [Bool.eq_false_iff]
    intro hends
    have hall : ∀ d ∈ Decoder.wordEnds, d.isDigit = false := Text.forall_mem_of_all (by decide)
    rw [hall c (Decoder.endsWord_iff.mp hends)] at hc
    cases hc
  intro c hc
  rw [intDigits] at hc
  split_ifs at hc
  · rcases List.mem_cons.mp hc with rfl | hc
    · decide
    · exact hdigit c (isDigit_of_mem_natDigits c hc)
  · exact hdigit c (isDigit_of_mem_natDigits c hc)

/-! ## Values -/

namespace Decoder

/-- A further item or the end of an array follows a value. -/
theorem breaks_printItems (level outer : Nat) (items : List Json) (rest : Text) :
    Breaks (printItems level items ++ (newLine outer ++ ']' :: rest)) := by
  cases items with
  | nil => exact ⟨'\n', _, rfl, by decide⟩
  | cons item items => exact ⟨',', _, rfl, by decide⟩

/-- A further field or the end of an object follows a value. -/
theorem breaks_printFields (level outer : Nat) (fields : List (Text × Json)) (rest : Text) :
    Breaks (printFields level fields ++ (newLine outer ++ '\x7d' :: rest)) := by
  cases fields with
  | nil => exact ⟨'\n', _, rfl, by decide⟩
  | cons field fields => exact ⟨',', _, rfl, by decide⟩

/-- A mark, where it may stand. -/
theorem run_mark {r next : Reading} {c : Char} {m : Mark} (hc : isSpace c = false ∧ c ≠ '"')
    (hm : Mark.ofChar? c = some m) (h : r.mark m = some next) (rest : Text) :
    run ⟨.between, r⟩ (c :: rest) = run ⟨.between, next⟩ rest := by
  refine run_cons_of_step ?_ rest
  show stepBetween r c = _
  rw [stepBetween, if_neg (by simp [hc.1]), if_neg hc.2, hm]
  show (r.mark m).map _ = _
  rw [h, Option.map_some]

mutual

/-- **A value that is written is read**, wherever a value may stand. -/
theorem run_printAt (level : Nat) (around : List Pending) {rest : Text} (hrest : Breaks rest) :
    (j : Json) → run ⟨.between, around, .value⟩ (printAt level j ++ rest)
      = run ⟨.between, around, .done j⟩ rest
  | .null =>
    run_scalar (w := "null".toList) (by decide) (Text.forall_mem_of_all (by decide)) rfl rfl hrest
  | .bool true =>
    run_scalar (w := "true".toList) (by decide) (Text.forall_mem_of_all (by decide)) rfl rfl hrest
  | .bool false =>
    run_scalar (w := "false".toList) (by decide) (Text.forall_mem_of_all (by decide)) rfl rfl hrest
  | .int n =>
    run_scalar (intDigits_ne_nil n) endsWord_of_mem_intDigits (wordValue?_intDigits n) rfl hrest
  | .text t => run_quote rfl rest
  | .array [] => by
    show run _ ('[' :: ']' :: rest) = _
    rw [run_mark (by decide) rfl rfl, run_mark (by decide) rfl rfl]
  | .array (item :: items) => by
    show run _ ('[' :: newLine (level + 1) ++ printAt (level + 1) item
      ++ printItems (level + 1) items ++ newLine level ++ [']'] ++ rest) = _
    simp only [List.append_assoc, List.cons_append, List.nil_append]
    rw [run_mark (by decide) rfl rfl, run_newLine,
      run_printAt (level + 1) _ (breaks_printItems _ _ _ _) item, run_printItems, List.nil_append]
  | .object [] => by
    show run _ ('\x7b' :: '\x7d' :: rest) = _
    rw [run_mark (by decide) rfl rfl, run_mark (by decide) rfl rfl]
  | .object (field :: fields) => by
    show run _ ('\x7b' :: newLine (level + 1) ++ printField (level + 1) field
      ++ printFields (level + 1) fields ++ newLine level ++ ['\x7d'] ++ rest) = _
    simp only [List.append_assoc, List.cons_append, List.nil_append]
    rw [run_mark (by decide) rfl rfl, run_newLine,
      run_printField (level + 1) _ (breaks_printFields _ _ _ _) _ field, run_printFields,
      List.nil_append]
  termination_by structural j => j

/-- The further items of an array are read, and its end. -/
theorem run_printItems (level outer : Nat) (around : List Pending) (rest : Text) (read : List Json)
    (v : Json) : (items : List Json) →
      run ⟨.between, .array read :: around, .done v⟩
          (printItems level items ++ (newLine outer ++ ']' :: rest))
        = run ⟨.between, around, .done (.array (read ++ v :: items))⟩ rest
  | [] => by
    show run _ (newLine outer ++ ']' :: rest) = _
    rw [run_newLine, run_mark (by decide) rfl rfl]
  | item :: items => by
    show run _ (',' :: newLine level ++ printAt level item ++ printItems level items
      ++ (newLine outer ++ ']' :: rest)) = _
    simp only [List.append_assoc, List.cons_append]
    rw [run_mark (by decide) rfl rfl, run_newLine,
      run_printAt level _ (breaks_printItems _ _ _ _) item, run_printItems, List.append_assoc,
      List.singleton_append]
  termination_by structural items => items

/-- The further fields of an object are read, and its end. -/
theorem run_printFields (level outer : Nat) (around : List Pending) (rest : Text)
    (read : List (Text × Json)) (key : Text) (v : Json) : (fields : List (Text × Json)) →
      run ⟨.between, .object read key :: around, .done v⟩
          (printFields level fields ++ (newLine outer ++ '\x7d' :: rest))
        = run ⟨.between, around, .done (.object (read ++ (key, v) :: fields))⟩ rest
  | [] => by
    show run _ (newLine outer ++ '\x7d' :: rest) = _
    rw [run_newLine, run_mark (by decide) rfl rfl]
  | field :: fields => by
    show run _ (',' :: newLine level ++ printField level field ++ printFields level fields
      ++ (newLine outer ++ '\x7d' :: rest)) = _
    simp only [List.append_assoc, List.cons_append]
    rw [run_mark (by decide) rfl rfl, run_newLine,
      run_printField level _ (breaks_printFields _ _ _ _) _ field, run_printFields,
      List.append_assoc, List.singleton_append]
  termination_by structural fields => fields

/-- A key and its value are read. -/
theorem run_printField (level : Nat) (around : List Pending) {rest : Text} (hrest : Breaks rest)
    (read : List (Text × Json)) : (field : Text × Json) →
      run ⟨.between, around, .key read⟩ (printField level field ++ rest)
        = run ⟨.between, .object read field.1 :: around, .done field.2⟩ rest
  | (key, v) => by
    have hkey : Reading.scalar ⟨around, .key read⟩ (.text key) = some ⟨around, .colon read key⟩ :=
      rfl
    have hspace : ∀ c ∈ [' '], isSpace c = true := Text.forall_mem_of_all (by decide)
    show run _ (quote key ++ ':' :: ' ' :: printAt level v ++ rest) = _
    simp only [List.append_assoc, List.cons_append]
    rw [run_quote hkey, run_mark (by decide) rfl rfl]
    exact (run_spaces _ hspace _).trans (run_printAt level _ hrest v)
  termination_by structural field => field

end

end Decoder

/-- **What is written denotes what was meant**, whatever blanks stand behind it. -/
theorem decode?_print_append (j : Json) {blanks : Text} (h : ∀ c ∈ blanks, isSpace c = true) :
    decode? (j.print ++ blanks) = some j := by
  have hblanks : ∀ c ∈ blanks ++ ['\n'], isSpace c = true := by
    intro c hc
    rcases List.mem_append.mp hc with hc | hc
    · exact h c hc
    · rw [List.mem_singleton.mp hc]
      decide
  have hbreaks : Decoder.Breaks (blanks ++ ['\n']) := by
    obtain ⟨c, beyond, hcons⟩ := List.exists_cons_of_ne_nil (List.concat_ne_nil '\n' blanks)
    refine ⟨c, beyond, hcons, ?_⟩
    rw [hcons, List.forall_mem_cons] at hblanks
    rw [Decoder.endsWord, hblanks.1, Bool.true_or, Bool.true_or]
  have hrun : Decoder.run ⟨.between, [], .value⟩ (j.print ++ blanks ++ ['\n'])
      = some ⟨.between, [], .done j⟩ := by
    have hspaces := Decoder.run_spaces ⟨[], .done j⟩ hblanks []
    rw [List.append_nil, Decoder.run_nil] at hspaces
    rw [List.append_assoc, print, Decoder.run_printAt 0 [] hbreaks j, hspaces]
  rw [decode?, hrun]

/-- Text that is no JSON is refused. -/
example : decode? "[1,]".toList = none ∧ decode? "01".toList = none
    ∧ decode? "\"\\x\"".toList = none := ⟨rfl, rfl, rfl⟩

end CandidateSearch.Json
