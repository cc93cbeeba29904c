import PageTemplate.Template.Frame
import PageTemplate.Token.Scan

/-!
# The template of a source

Tokens are read one by one into a tree. Reading never fails: a tag that fits nowhere is inert, and
a part that is still open at the end is given up, its content moving to the part around it.

## Main definitions

* `PageTemplate.Builder` — the tree read so far, with the parts that are open.
* `PageTemplate.Builder.read` — the tree after one more token.
* `PageTemplate.Template.ofTokens`, `PageTemplate.Template.parse` — the template of tokens and of
  a source.
-/

namespace PageTemplate

/-- The tree read so far: the nodes outside all open parts, and the open parts, innermost first. -/
structure Builder where
  root : List Node
  frames : List Frame

namespace Builder

/-- Nothing has been read. -/
def empty : Builder := ⟨[], []⟩

/-- One more node in the innermost open part. -/
def push (b : Builder) (node : Node) : Builder :=
  match b.frames with
  | [] => { b with root := b.root ++ [node] }
  | f :: frames => { b with frames := f.push node :: frames }

/-- The token as a tag that plays no part. -/
def pushInert (b : Builder) (t : Token) : Builder :=
  b.push (.inert t.value t.location)

/-- The token begins a part. -/
def openFrame (b : Builder) (opening : Frame.Opening) (t : Token) : Builder :=
  { b with frames := ⟨opening, t.value, t.location, []⟩ :: b.frames }

/-- The token begins the next branch of the innermost part, or is inert. -/
def nextBranch (b : Builder) (next : Option (Condition × Location)) (t : Token) : Builder :=
  match b.frames with
  | [] => b.pushInert t
  | f :: frames =>
    match f.nextBranch? next with
    | some f => { b with frames := f :: frames }
    | none => b.pushInert t

/-- The token closes the innermost part if that part is of the right kind, or is inert. -/
def closeFrame (b : Builder) (fits : Frame.Opening → Bool) (t : Token) : Builder :=
  match b.frames with
  | [] => b.pushInert t
  | f :: frames =>
    if fits f.opening then push { b with frames := frames } f.close else b.pushInert t

/-- The tree after a tag. -/
def readTag (b : Builder) (t : Token) : Builder :=
  match Directive.classify t.content with
  | .inherit parent => b.push (.inherit parent t.location)
  | .openBlock name => b.openFrame (.block name) t
  | .openLoop item collection => b.openFrame (.loop item (Path.lenient collection t.location)) t
  | .openChoice condition =>
    b.openFrame (.choice [] (some (Condition.parse condition t.location, t.location))) t
  | .nextBranch condition =>
    b.nextBranch (some (Condition.parse condition t.location, t.location)) t
  | .lastBranch => b.nextBranch none t
  | .closeBlock => b.closeFrame Frame.Opening.isBlock t
  | .closeLoop => b.closeFrame Frame.Opening.isLoop t
  | .closeChoice => b.closeFrame Frame.Opening.isChoice t
  | .unsupported => b.pushInert t

/-- The tree after one more token. -/
def read (b : Builder) (t : Token) : Builder :=
  match t.kind with
  | .text => b.push (.text t.value t.location)
  | .output => b.push (.output t.value (Expression.parse? t.content t.location) t.location)
  | .tag => b.readTag t

/-- The nodes at the end of the tokens: open parts are given up, each moving its content into the
part around it. -/
def finish (b : Builder) : List Node :=
  b.root ++ b.frames.reverse.flatMap Frame.unwind

end Builder

namespace Template

/-- The template of tokens, whether they come from a source or not. -/
def ofTokens (tokens : List Token) : Template :=
  ⟨(tokens.foldl Builder.read .empty).finish, .start⟩

/-- The template of a source. -/
def parse (source : Text) : Template :=
  ofTokens (Token.tokenize source)

end Template

end PageTemplate
