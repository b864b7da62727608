-- The tokens of the language: numbers, strings, names, and symbols with a
-- fixed spelling. Strings are raw, so a token holds its characters as they are.
namespace Patchbay.Language

/-- A keyword or a mark. -/
inductive Symbol
  | letWord
  | ifWord
  | thenWord
  | elseWord
  | semicolon
  | backslash
  | colon
  | pipe
  | dot
  | star
  | slash
  | plus
  | minus
  | leftParen
  | rightParen
  | leftBrace
  | rightBrace
  | comma
  | leftBracket
  | rightBracket
  | percent
  | assign
  | equals
  deriving DecidableEq, Repr

namespace Symbol

def spelling : Symbol → String
  | letWord => "let"
  | ifWord => "if"
  | thenWord => "then"
  | elseWord => "else"
  | semicolon => ";"
  | backslash => "\\"
  | colon => ":"
  | pipe => "|"
  | dot => "."
  | star => "*"
  | slash => "/"
  | plus => "+"
  | minus => "-"
  | leftParen => "("
  | rightParen => ")"
  | leftBrace => "\x7b"
  | rightBrace => "\x7d"
  | comma => ","
  | leftBracket => "["
  | rightBracket => "]"
  | percent => "%"
  | assign => "="
  | equals => "=="

/-- The keyword that a word is. -/
def ofWord? (word : String) : Option Symbol :=
  if word = "let" then some letWord
  else if word = "if" then some ifWord
  else if word = "then" then some thenWord
  else if word = "else" then some elseWord
  else none

/-- The mark of one character. A lone `=` is read with the character after it
in sight, so it is not among them. -/
def ofChar? : Char → Option Symbol
  | ';' => some semicolon
  | '\\' => some backslash
  | ':' => some colon
  | '|' => some pipe
  | '.' => some dot
  | '*' => some star
  | '/' => some slash
  | '+' => some plus
  | '-' => some minus
  | '(' => some leftParen
  | ')' => some rightParen
  | '{' => some leftBrace
  | '}' => some rightBrace
  | ',' => some comma
  | '[' => some leftBracket
  | ']' => some rightBracket
  | '%' => some percent
  | _ => none

end Symbol

inductive Token
  | number (value : Float)
  | text (value : String)
  | ident (name : String)
  | symbol (symbol : Symbol)
  deriving DecidableEq, Repr

/-- What a token is called in messages. -/
def Token.kind : Token → String
  | .number _ => "number"
  | .text _ => "string"
  | .ident _ => "ident"
  | .symbol s => s.spelling

end Patchbay.Language
