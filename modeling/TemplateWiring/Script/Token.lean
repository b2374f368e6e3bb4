import TemplateWiring.Number.Binary64
import TemplateWiring.Script.Comment
import TemplateWiring.Script.Complaint
import TemplateWiring.Script.Unit

namespace TemplateWiring.Script

inductive Lexeme where
  /-- A name or keyword, perhaps spelt with escapes. -/
  | word (text : String) (escaped : Bool)
  | hash (name : String)
  | sign (text : String)
  | number (value : Option Binary64) (form : String)
  | bigint (digits : String) (form : String)
  | string (value : List StringUnit) (raw : String)
  /-- A piece of a template: the last one ends in a backtick, the others in an opening brace. -/
  | template (raw : String) (last sound : Bool)
  | regex (source : String)
  | unknown
  | finish
  deriving DecidableEq, Repr

structure Token where
  lexeme : Lexeme
  start : Nat
  stop : Nat
  newline : Bool
  comments : List Comment
  /-- A comment says that the call that starts here has no effect. -/
  pure : Bool
  noEffects : Bool
  deriving DecidableEq, Repr

def reservedWords : List String :=
  ["break", "case", "catch", "class", "const", "continue", "debugger", "default", "delete", "do",
    "else", "enum", "export", "extends", "false", "finally", "for", "function", "if", "import",
    "in", "instanceof", "new", "null", "return", "super", "switch", "this", "throw", "true", "try",
    "typeof", "var", "void", "while", "with"]

def contextualWords : List String :=
  ["async", "await", "from", "get", "meta", "of", "set", "target", "accessor", "abstract", "as",
    "asserts", "assert", "any", "bigint", "boolean", "constructor", "declare", "defer", "infer",
    "intrinsic", "is", "keyof", "let", "namespace", "never", "object", "out", "readonly", "require",
    "number", "satisfies", "source", "string", "symbol", "type", "undefined", "unique", "using",
    "unknown", "global", "override", "implements", "interface", "module", "package", "private",
    "protected", "public", "static", "yield"]

def futureWords : List String :=
  ["implements", "interface", "let", "package", "private", "protected", "public", "static", "yield"]

namespace Lexeme

def found : Lexeme → String
  | word text _ =>
    if reservedWords.contains text || contextualWords.contains text then text else "Identifier"
  | hash _ => "#identifier"
  | sign text => text
  | number _ form => form
  | bigint _ form => form
  | string .. => "string"
  | template _ true _ => "NoSubstitutionTemplate"
  | template _ false _ => "TemplateHead"
  | regex _ => "/regexp/"
  | unknown => "Unknown"
  | finish => "EOF"

def isWord (l : Lexeme) (text : String) : Bool :=
  match l with
  | word w _ => w == text
  | _ => false

def isPlainWord (l : Lexeme) (text : String) : Bool := l == word text false

def isSign (l : Lexeme) (text : String) : Bool := l == sign text

def isBindable : Lexeme → Bool
  | word text _ => !reservedWords.contains text
  | _ => false

def isLiteral : Lexeme → Bool
  | word text _ => text == "true" || text == "false" || text == "null"
  | number .. => true
  | bigint .. => true
  | string .. => true
  | regex _ => true
  | _ => false

/-- What makes a word before it an operator: a literal or a name that is no operator itself. -/
def followsOperatorWord : Lexeme → Bool
  | word text _ => text != "in" && text != "instanceof"
  | l => l.isLiteral

/-- After these signs a comment at the end of the line belongs to what follows. -/
def expectsMore (l : Lexeme) : Bool := l.isSign "=" || l.isSign "("

end Lexeme

end TemplateWiring.Script
