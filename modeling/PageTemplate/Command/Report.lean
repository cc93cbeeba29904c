import PageTemplate.Decimal.Digits

/-!
# Reports of errors

A report gives the error and, below it, what caused it, each cause indented; several causes are
numbered from zero.

## Main definitions

* `PageTemplate.Command.Report` — an error with its causes.
* `PageTemplate.Command.Report.text` — the lines of a report.
-/

namespace PageTemplate.Command

/-- An error with its causes, the nearest first. -/
structure Report where
  message : Text
  causes : List Text
deriving DecidableEq

namespace Report

/-- A cause after `mark`, its further lines indented by as much. -/
def indented (mark cause : Text) : Text :=
  mark ++ Text.join ('\n' :: List.replicate mark.length ' ') (cause.splitOn '\n')

/-- The numbers of several causes. -/
def numbered : Nat → List Text → List Text
  | _, [] => []
  | n, cause :: causes =>
    indented (Text.padLeft 5 (Decimal.ofNat n) ++ ": ") cause :: numbered (n + 1) causes

/-- The causes as they are listed. -/
def listed : List Text → List Text
  | [cause] => [indented (List.replicate 4 ' ') cause]
  | causes => numbered 0 causes

/-- The lines of the report. -/
def text (r : Report) : Text :=
  let causes : Text :=
    if r.causes.isEmpty then []
    else "\nCaused by:\n" ++ (listed r.causes).flatMap (· ++ ['\n'])
  "Error: " ++ r.message ++ "\n" ++ causes

end Report

end PageTemplate.Command
