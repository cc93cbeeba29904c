import PageTemplate.Path

/-!
# Directives

The content of a tag is a directive: a keyword, and after blanks what the keyword asks for.

## Main definitions

* `PageTemplate.Directive` — the directives of the template language.
* `PageTemplate.Directive.classify` — the directive of the content of a tag.
-/

namespace PageTemplate

/-- A directive: the template builds on a parent; a block, a loop or a choice begins, goes on with
its next branch, or ends; anything else is not supported. -/
inductive Directive where
  | inherit (parent : Text)
  | openBlock (name : Text)
  | closeBlock
  | openLoop (item : Text) (collection : Text)
  | closeLoop
  | openChoice (condition : Text)
  | nextBranch (condition : Text)
  | lastBranch
  | closeChoice
  | unsupported
deriving DecidableEq

namespace Directive

/-- The text between two equal quotation marks, without blanks around it, if some is left. -/
def unquote? : Text → Option Text
  | [] => none
  | quote :: s =>
    if Text.isQuote quote then
      ((Text.dropSuffix? [quote] s).map Text.trim).filter fun inner => !inner.isEmpty
    else none

/-- A loop: a word for the item, `in`, and a path of words for the collection. -/
def loop? (s : Text) : Option Directive :=
  match Text.words s with
  | [item, link, collection] =>
    if Text.isWord item && link == "in" && (Path.parse? collection .start).isSome then
      some (.openLoop item collection)
    else none
  | _ => none

/-- The directive of a content without blanks around it: the keyword ends at the first blank. -/
def classify (content : Text) : Directive :=
  let (keyword, rest) :=
    match Text.cutWhere? Text.isBlank content with
    | some (keyword, rest) => (keyword, Text.trim rest)
    | none => (content, [])
  if keyword = "extends" then
    match unquote? rest with
    | some parent => .inherit parent
    | none => .unsupported
  else if keyword = "block" then
    if Text.isWord rest then .openBlock rest else .unsupported
  else if keyword = "endblock" then
    if rest.isEmpty || Text.isWord rest then .closeBlock else .unsupported
  else if keyword = "for" then (loop? rest).getD .unsupported
  else if keyword = "endfor" then if rest.isEmpty then .closeLoop else .unsupported
  else if keyword = "if" then if rest.isEmpty then .unsupported else .openChoice rest
  else if keyword = "elseif" then if rest.isEmpty then .unsupported else .nextBranch rest
  else if keyword = "else" then if rest.isEmpty then .lastBranch else .unsupported
  else if keyword = "endif" then if rest.isEmpty then .closeChoice else .unsupported
  else .unsupported

end Directive

end PageTemplate
