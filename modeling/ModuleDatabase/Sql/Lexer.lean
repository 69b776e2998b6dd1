import ModuleDatabase.Base.Scanning

namespace ModuleDatabase
namespace Sql

open Scanner

/-!
# The lexer of SQL

A statement ends at a zero character.  The first character of a lexeme decides
how the rest is taken: words, numbers and variables go on as long as their
characters do, literals and quoted identifiers up to the closing quote, in which
a doubled quote stands for one, and comments up to their end.  Everything beyond
ASCII counts as a letter.

Blanks and comments are no tokens.  A word is a keyword or an identifier; which
words are reserved is not part of the lexer.  A number that runs into a word,
and a quote that is not closed, are not legal; such lexemes are tokens too, so
that no part of the text is passed over.
-/

/-- What a character begins. -/
inductive CharClass where
  | space
  | dash
  | slash
  | quote
  | bracket
  /-- A word, or a blob literal if a quote follows. -/
  | ex
  | letter
  | digit
  | dot
  | question
  | parameter
  | comparison
  | other
  deriving DecidableEq, Repr

def isSpace (c : Char) : Bool :=
  c == ' ' || c == '\t' || c == '\n' || c == '\x0c' || c == '\r'

def isLetter (c : Char) : Bool := c.isAlpha || c == '_' || decide (128 ≤ c.toNat)

def isIdChar (c : Char) : Bool := isLetter c || c.isDigit || c == '$'

def classOf (c : Char) : CharClass :=
  if isSpace c then .space
  else if c == '-' then .dash
  else if c == '/' then .slash
  else if c == '\x27' || c == '\x22' || c == '\x60' then .quote
  else if c == '[' then .bracket
  else if c == 'x' || c == 'X' then .ex
  else if isLetter c then .letter
  else if c.isDigit then .digit
  else if c == '.' then .dot
  else if c == '?' then .question
  else if c == '$' || c == '@' || c == ':' || c == '#' then .parameter
  else if c == '=' || c == '<' || c == '>' || c == '!' || c == '|' then .comparison
  else .other

/-- The second characters of the operators of two characters. -/
def seconds (c : Char) : List Char :=
  if c == '=' || c == '!' then ['=']
  else if c == '<' then ['=', '>', '<']
  else if c == '>' then ['=', '>']
  else if c == '|' then ['|']
  else []

def isExponent (c : Char) : Bool := c == 'e' || c == 'E'

def isSign (c : Char) : Bool := c == '+' || c == '-'

/-- An exponent with a sign; one without a sign is taken with the word. -/
def signedExponent : Scanner Char :=
  choose (looking [isExponent, isSign, Char.isDigit])
    (lead isExponent (lead isSign (run Char.isDigit))) nothing

/-- A number behind its point, with what it runs into. -/
def decimals : Scanner Char := andThen (run Char.isDigit) (andThen signedExponent (run isIdChar))

/-- A number behind its first digit, with what it runs into. -/
def number : Scanner Char :=
  andThen (run Char.isDigit)
    (andThen (lead (· == '.') (run Char.isDigit)) (andThen signedExponent (run isIdChar)))

/-- What belongs to a lexeme behind its first character. -/
def follow (c : Char) : Scanner Char :=
  match classOf c with
  | .space => run isSpace
  | .dash => choose (looking [(· == '-')]) (run (· != '\n')) nothing
  | .slash =>
      choose (looking [(· == '*'), fun _ => true]) (lead (· == '*') (throughPair '*' '/')) nothing
  | .quote => quoted c
  | .bracket => through ']'
  | .ex =>
      choose (looking [(· == '\x27')]) (lead (· == '\x27') (through '\x27')) (run isIdChar)
  | .letter => run isIdChar
  | .digit => number
  | .dot => choose (looking [Char.isDigit]) decimals nothing
  | .question => run Char.isDigit
  | .parameter => run isIdChar
  | .comparison => lead (seconds c).contains nothing
  | .other => nothing

/-! ## Tokens -/

inductive TokenKind where
  /-- White space, or a comment. -/
  | blank
  | keyword
  | identifier
  | string
  /-- An operator, another literal, a variable, or what is not legal. -/
  | other
  deriving DecidableEq, Repr

/-- A token, with its text. -/
structure Token where
  kind : TokenKind
  text : List Char
  deriving DecidableEq, Repr

/-- What a lexeme is.  A quote is closed if an even number of quotes stands in it. -/
def kindOf (reserved : List Char → Bool) : List Char → TokenKind
  | [] => .other
  | c :: rest =>
      let word := if reserved (c :: rest) then TokenKind.keyword else .identifier
      match classOf c with
      | .space => .blank
      | .dash => if looking [(· == '-')] rest then .blank else .other
      | .slash => if looking [(· == '*'), fun _ => true] rest then .blank else .other
      | .quote =>
          if rest.count c % 2 = 1 then (if c == '\x27' then .string else .identifier) else .other
      | .bracket => if rest.contains ']' then .identifier else .other
      | .ex => if looking [(· == '\x27')] rest then .other else word
      | .letter => word
      | _ => .other

/-- The tokens of a statement. -/
def tokens (reserved : List Char → Bool) (text : List Char) : List Token :=
  ((lexemes follow (text.takeWhile (· != '\x00'))).map fun lexeme =>
    Token.mk (kindOf reserved lexeme) lexeme).filter fun token => token.kind != .blank

theorem splits_signedExponent : signedExponent.Splits :=
  (((splits_run _).lead _).lead _).choose splits_nothing _

theorem splits_decimals : decimals.Splits :=
  (splits_run _).andThen (splits_signedExponent.andThen (splits_run _))

theorem splits_number : number.Splits :=
  (splits_run _).andThen (((splits_run _).lead _).andThen
    (splits_signedExponent.andThen (splits_run _)))

theorem splits_follow (c : Char) : (follow c).Splits := by
  unfold follow
  cases classOf c with
  | space => exact splits_run _
  | dash => exact (splits_run _).choose splits_nothing _
  | slash => exact ((splits_throughPair _ _).lead _).choose splits_nothing _
  | quote => exact splits_quoted c
  | bracket => exact splits_through _
  | ex => exact ((splits_through _).lead _).choose (splits_run _) _
  | letter => exact splits_run _
  | digit => exact splits_number
  | dot => exact splits_decimals.choose splits_nothing _
  | question => exact splits_run _
  | parameter => exact splits_run _
  | comparison => exact splits_nothing.lead _
  | other => exact splits_nothing

end Sql
end ModuleDatabase
