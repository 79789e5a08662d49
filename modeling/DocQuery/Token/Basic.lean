import DocQuery.Op
import DocQuery.Duration.Basic
import DocQuery.Link
import DocQuery.Number.Text

/-!
The tokens of queries and expressions, and the stretches of text they are read from.
-/

namespace DocQuery

/-- The tokens that carry no value. -/
inductive Symbol where
  | plus | minus | star | slash | percent
  | equal | notEqual | less | greater | atMost | atLeast
  | and | or | bang
  | openBracket | closeBracket | openParen | closeParen | openBrace | closeBrace
  | dot | comma | colon
  deriving DecidableEq

namespace Symbol

def text : Symbol → String
  | plus => "+"
  | minus => "-"
  | star => "*"
  | slash => "/"
  | percent => "%"
  | equal => "="
  | notEqual => "!="
  | less => "<"
  | greater => ">"
  | atMost => "<="
  | atLeast => ">="
  | and => "and"
  | or => "or"
  | bang => "!"
  | openBracket => "["
  | closeBracket => "]"
  | openParen => "("
  | closeParen => ")"
  | openBrace => "\x7b"
  | closeBrace => "\x7d"
  | dot => "."
  | comma => ","
  | colon => ":"

/-- The binary operator that a symbol stands for between two operands. -/
def op? : Symbol → Option Op
  | plus => some .add
  | minus => some .subtract
  | star => some .multiply
  | slash => some .divide
  | percent => some .modulo
  | equal => some .equal
  | notEqual => some .notEqual
  | less => some .less
  | greater => some .greater
  | atMost => some .atMost
  | atLeast => some .atLeast
  | and => some .and
  | or => some .or
  | _ => none

end Symbol

inductive Token where
  | number (n : Number)
  | string (s : String)
  | boolean (b : Bool)
  | null
  | link (l : Link)
  /-- A tag with its number sign. -/
  | tag (tag : String)
  | date (d : Date)
  | duration (d : Duration)
  | identifier (name : String)
  | symbol (s : Symbol)
  /-- The end of the text. -/
  | finish
  deriving DecidableEq

namespace Token

/-- A token as messages name it. -/
def display : Token → String
  | number n => "number " ++ n.text
  | string s => "string \"" ++ s ++ "\""
  | boolean b => if b then "'true'" else "'false'"
  | null => "'null'"
  | link l => "link " ++ l.markdown
  | tag t => "tag " ++ t
  | date _ => "date literal"
  | duration _ => "duration literal"
  | identifier name => "'" ++ name ++ "'"
  | symbol s => "'" ++ s.text ++ "'"
  | finish => "end of input"

end Token

/-- A token and the stretch of text it was read from, in characters. -/
structure Lexeme where
  token : Token
  start : Nat
  stop : Nat
  deriving DecidableEq

/-- A place in a text. Lines and columns are counted from one, the offset from zero. -/
structure Position where
  line : Nat
  column : Nat
  offset : Nat
  deriving DecidableEq

namespace Position

/-- The place after a character. -/
def next (p : Position) (c : Char) : Position :=
  if c = '\n' then ⟨p.line + 1, 1, p.offset + 1⟩ else ⟨p.line, p.column + 1, p.offset + 1⟩

/-- The place of a character offset in a text. -/
def atOffset (text : List Char) (offset : Nat) : Position :=
  let reached := (text.take offset).foldl next ⟨1, 1, 0⟩
  { reached with offset }

def display (p : Position) : String :=
  "line " ++ toString p.line ++ ", column " ++ toString p.column

end Position

end DocQuery
