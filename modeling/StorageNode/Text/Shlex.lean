import StorageNode.Text.Basic

/-!
# Shell words

`shlex.split` in its default mode: words are separated by blanks, quotes of both kinds group, and a
backslash quotes the next character, inside double quotes only a double quote or a backslash.
-/

set_option autoImplicit false

namespace StorageNode.Shlex

/-- The `ValueError` of `shlex.split`. -/
inductive ShlexError where
  | noClosingQuotation
  | noEscapedCharacter
  deriving DecidableEq

/-- Where the lexer stands: between words, in a word, inside quotes, or after a backslash, with the
quotes that the backslash stands in. -/
inductive Phase where
  | blank
  | word
  | quoted (quote : Char)
  | escaped (inside : Option Char)
  deriving DecidableEq

/-- `shlex.whitespace`. -/
def isBlank (c : Char) : Bool :=
  c = ' ' || c = '\t' || c = '\r' || c = '\n'

/-- `shlex.quotes`. -/
def isQuote (c : Char) : Bool :=
  c = '\'' || c = '"'

/-- The words of the rest of the text. `token` is the current word and `quoted` says that it had quotes,
so that it counts even when it is empty. -/
def words : Text → Phase → Text → Bool → Except ShlexError (List Text)
  | [], .blank, _, _ => .ok []
  | [], .word, token, quoted => .ok (if token = [] ∧ quoted = false then [] else [token])
  | [], .quoted _, _, _ => .error .noClosingQuotation
  | [], .escaped _, _, _ => .error .noEscapedCharacter
  | c :: rest, .blank, _, _ =>
    if isBlank c then words rest .blank [] false
    else if c = '\\' then words rest (.escaped none) [] false
    else if isQuote c then words rest (.quoted c) [] false
    else words rest .word [c] false
  | c :: rest, .word, token, quoted =>
    if isBlank c then
      if token = [] ∧ quoted = false then words rest .blank [] false
      else do
        let later ← words rest .blank [] false
        pure (token :: later)
    else if isQuote c then words rest (.quoted c) token quoted
    else if c = '\\' then words rest (.escaped none) token quoted
    else words rest .word (token ++ [c]) quoted
  | c :: rest, .quoted quote, token, _ =>
    if c = quote then words rest .word token true
    else if c = '\\' ∧ quote = '"' then words rest (.escaped (some quote)) token true
    else words rest (.quoted quote) (token ++ [c]) true
  | c :: rest, .escaped none, token, quoted => words rest .word (token ++ [c]) quoted
  | c :: rest, .escaped (some quote), token, quoted =>
    if c = '\\' ∨ c = quote then words rest (.quoted quote) (token ++ [c]) quoted
    else words rest (.quoted quote) (token ++ ['\\', c]) quoted

/-- `shlex.split`. -/
def split (text : Text) : Except ShlexError (List Text) :=
  words text .blank [] false

example : split "rw 'a b'\"c\\d\"  \"\"".toList =
    .ok ["rw".toList, "a bc\\d".toList, []] := by
  decide +kernel

end StorageNode.Shlex
