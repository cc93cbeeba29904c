import PageTemplate.Location

/-!
# Tokens

A source is a sequence of tokens: plain text, outputs such as `{{ name }}`, and tags such as
`{% endif %}`.

## Main definitions

* `PageTemplate.Token` — a part of a source with its place.
* `PageTemplate.Token.Kind.delimiters?` — what encloses a token of a kind.
* `PageTemplate.Token.content` — what stands between the delimiters.
-/

namespace PageTemplate

namespace Token

/-- The kinds of tokens. -/
inductive Kind where
  | text
  | output
  | tag
deriving DecidableEq, Repr

namespace Kind

/-- What opens and closes a token of the kind. -/
def delimiters? : Kind → Option (Text × Text)
  | .text => none
  | .output => some (['\x7b', '\x7b'], ['\x7d', '\x7d'])
  | .tag => some (['\x7b', '%'], ['%', '\x7d'])

/-- The name of the kind. -/
def name : Kind → Text
  | .text => "Text"
  | .output => "Output"
  | .tag => "Tag"

end Kind

end Token

/-- A part of a source, as written, with the place where it begins. -/
structure Token where
  kind : Token.Kind
  value : Text
  location : Location
deriving DecidableEq

namespace Token

/-- The text between an opening and a closing delimiter, if both are there. -/
def between? (opening closing s : Text) : Option Text :=
  (Text.dropPrefix? opening s).bind (Text.dropSuffix? closing)

/-- What stands between the delimiters, without blanks around it. A text is its own content, and a
token without its delimiters is taken whole. -/
def content (t : Token) : Text :=
  match t.kind.delimiters? with
  | none => t.value
  | some (opening, closing) => Text.trim ((between? opening closing t.value).getD t.value)

end Token

end PageTemplate
