import CandidateSearch.Query.Operator

/-!
# Tokens of field content

The content of a field is words, quoted phrases, operators and punctuation.  `scan` cuts a text into
tokens and notes the quotes that are never closed; `tokenize` keeps the tokens.  A token knows the
position at which its source begins, and `Token.width` how far it reaches.
-/

namespace CandidateSearch

/-- What a token is. -/
inductive Lexeme where
  | word (text : Text)
  | quoted (text : Text)
  | operator (op : Operator)
  | opening
  | closing
  | comma
  deriving DecidableEq, Repr

/-- A lexeme at the position where its source begins. -/
structure Token where
  lexeme : Lexeme
  position : Nat
  deriving DecidableEq, Repr

namespace Lexeme

/-- What the lexeme says: a phrase without its quotes, an operator in capitals. -/
def text : Lexeme → Text
  | .word t => t
  | .quoted t => t
  | .operator op => op.name
  | .opening => ['(']
  | .closing => [')']
  | .comma => [',']

/-- How many characters of the source the lexeme covers. -/
def width : Lexeme → Nat
  | .quoted t => t.length + 2
  | l => l.text.length

end Lexeme

/-- How many characters of the source the token covers. -/
def Token.width (t : Token) : Nat := t.lexeme.width

/-- The position just past the token. -/
def Token.stop (t : Token) : Nat := t.position + t.width

/-- One thing that scanning finds: a token, or a quote that is never closed. -/
inductive Scanned where
  | token (t : Token)
  | looseQuote (position : Nat)
  deriving DecidableEq, Repr

/-! ## Scanning -/

/-- A character that ends a word without being blank. -/
def isWordBreak (c : Char) : Bool := c == '"' || c == '(' || c == ')' || c == ','

/-- A character that a word may hold. -/
def isWordPart (c : Char) : Bool := !isBlank c && !isWordBreak c

/-- The lexeme that a whole word stands for. -/
def Lexeme.ofWord (w : Text) : Lexeme :=
  match Operator.ofWord? w with
  | some op => .operator op
  | none => .word w

/-- Cut the text that begins at a position.  Blanks are passed over, a phrase reaches to the next
quote, and a quote without a partner is passed over alone. -/
def scanFrom (pos : Nat) (t : Text) : List Scanned :=
  match t with
  | [] => []
  | c :: rest =>
    if isBlank c then scanFrom (pos + 1) rest
    else if c = '(' then .token ⟨.opening, pos⟩ :: scanFrom (pos + 1) rest
    else if c = ')' then .token ⟨.closing, pos⟩ :: scanFrom (pos + 1) rest
    else if c = ',' then .token ⟨.comma, pos⟩ :: scanFrom (pos + 1) rest
    else if c = '"' then
      match h : Text.after? '"' rest with
      | none => .looseQuote pos :: scanFrom (pos + 1) rest
      | some beyond =>
        have : beyond.length < rest.length := Text.length_of_after? h
        let phrase := rest.takeWhile (· != '"')
        .token ⟨.quoted phrase, pos⟩ :: scanFrom (pos + phrase.length + 2) beyond
    else
      have : (rest.dropWhile isWordPart).length ≤ rest.length :=
        (List.dropWhile_suffix _).length_le
      let word := c :: rest.takeWhile isWordPart
      .token ⟨.ofWord word, pos⟩ :: scanFrom (pos + word.length) (rest.dropWhile isWordPart)
  termination_by t.length
  decreasing_by all_goals (simp only [List.length_cons]; omega)

/-- The tokens among what was scanned. -/
def tokensOf (found : List Scanned) : List Token :=
  found.filterMap fun
    | .token t => some t
    | .looseQuote _ => none

/-- The positions of the quotes that are never closed. -/
def looseQuotesOf (found : List Scanned) : List Nat :=
  found.filterMap fun
    | .token _ => none
    | .looseQuote pos => some pos

/-- The tokens of a text, in order. -/
def tokenize (t : Text) : List Token := tokensOf (scanFrom 0 t)

/-- The positions of the quotes of a text that are never closed. -/
def looseQuotes (t : Text) : List Nat := looseQuotesOf (scanFrom 0 t)

end CandidateSearch
