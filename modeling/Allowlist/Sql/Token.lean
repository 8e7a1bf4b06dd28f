import Allowlist.Store.Error
import Allowlist.Text.Split

/-! # SQL as tokens

A statement is a list of tokens: fixed words, names, placeholders and numbers. Its text follows
from the tokens alone. A name has one or two parts, each of which is a plain identifier, so nothing
in it needs an escape between its quotes. -/

namespace Allowlist.Sql

open Text

/-- The words and marks of statements. -/
inductive Word
  | select
  | all
  | countAll
  | from
  | where
  | order
  | by
  | asc
  | desc
  | limit
  | offset
  | and
  | or
  | not
  | isIn
  | like
  | null
  | eq
  | gt
  | gte
  | lt
  | lte
  | opening
  | closing
  | comma
  deriving DecidableEq, Repr

def Word.text : Word → String
  | select => "SELECT"
  | all => "*"
  | countAll => "COUNT(*)"
  | «from» => "FROM"
  | «where» => "WHERE"
  | order => "ORDER"
  | «by» => "BY"
  | asc => "ASC"
  | desc => "DESC"
  | limit => "LIMIT"
  | offset => "OFFSET"
  | and => "AND"
  | or => "OR"
  | not => "NOT"
  | isIn => "IN"
  | like => "LIKE"
  | null => "NULL"
  | eq => "="
  | gt => ">"
  | gte => ">="
  | lt => "<"
  | lte => "<="
  | opening => "("
  | closing => ")"
  | comma => ","

/-- A token of a statement. -/
inductive Token
  | word (w : Word)
  | name (parts : List (List Char))
  | placeholder (index : Nat)
  | number (n : Nat)
  deriving DecidableEq, Repr

def isIdentifierStart (c : Char) : Bool := c.isAlpha || c = '_'

def isIdentifier : List Char → Bool
  | [] => false
  | c :: rest => isIdentifierStart c && rest.all fun c => isIdentifierStart c || isDigit c

def nameParts (name : String) : List (List Char) := splitAt '.' name.toList

/-- Whether a name can be written: one or two identifiers. -/
def isValidName (name : String) : Bool :=
  (nameParts name).length ≤ 2 && (nameParts name).all isIdentifier

namespace Token

def ofName (name : String) : Except StoreError Token :=
  if isValidName name then .ok (.name (nameParts name)) else .error (.invalidIdentifier name)

def quotedPart (part : List Char) : List Char := ['"'] ++ part ++ ['"']

def text : Token → List Char
  | word w => w.text.toList
  | name parts => ['.'].intercalate (parts.map quotedPart)
  | placeholder index => '$' :: decimal index
  | number n => decimal n

def isSpaced (a b : Token) : Bool :=
  a ≠ word .opening && b ≠ word .closing && b ≠ word .comma

/-- The text of tokens, given the one before them. -/
def layoutAfter (before : Token) : List Token → List Char
  | [] => []
  | t :: rest => (if isSpaced before t then [' '] else []) ++ t.text ++ layoutAfter t rest

def layout : List Token → List Char
  | [] => []
  | t :: rest => t.text ++ layoutAfter t rest

end Token

end Allowlist.Sql
