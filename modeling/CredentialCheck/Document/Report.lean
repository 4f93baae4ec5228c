import CredentialCheck.Document.Load
import CredentialCheck.Text.Excerpt

/-!
# Reports on documents that cannot be read

The text of the error for a document that cannot be read: the number of issues, and for each its
place, its wording, the name of the rule, an excerpt of the value found, and where to read more.
-/

namespace CredentialCheck

namespace Document

/-- One part of a location as text. A name with a point in it stands in backquotes. -/
def Step.text : Step → String
  | .number n => toString n
  | .name s => if s.toList.contains '.' then "`" ++ s ++ "`" else s

/-- The lines on one issue. -/
def Issue.lines (origin : Origin) (issue : Issue) : List String :=
  let place := match issue.location with
    | [] => []
    | steps => [".".intercalate (steps.map Step.text)]
  let shown := String.ofList (Text.excerpt issue.input.literal.toList)
  place ++ [
    "  " ++ issue.message origin ++ " [type=" ++ issue.rule.name ++ ", input_value=" ++ shown ++
      ", input_type=" ++ issue.input.kind.name ++ "]",
    "    For further information visit https://errors.pydantic.dev/2.14/v/" ++ issue.rule.name]

/-- The report on all issues of a document. -/
def issuesText (model : Model) (origin : Origin) (issues : List Issue) : String :=
  let count := toString issues.length ++ " validation error" ++
    (if issues.length = 1 then "" else "s") ++ " for " ++ model.name
  "\n".intercalate (count :: issues.flatMap (Issue.lines origin))

/-- The beginning of the error for a document that cannot be read. -/
def unparsableText (model : Model) : String := "Could not parse " ++ model.name

end Document

open Document

/-- The error of a failure to load. -/
def LoadFailure.validationError (model : Model) : LoadFailure → ValidationError
  | .unparsable origin issues =>
    ⟨.string (unparsableText model ++ ": " ++ issuesText model origin issues)⟩
  | .rejected e => e
  | .misuse m => ⟨.string m.message⟩

end CredentialCheck
