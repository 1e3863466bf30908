import DocSplice.Documentation

/-!
# Validation

Documentation is checked against the convention of its kind.  Every check is made, and the issues
are reported in the order of the checks; documentation without issues is valid.

Some checks look at the sections (is there a description, and is it long enough?) and some at the
raw block (does it have the shape of the convention?).  Where no documentation was found there is
exactly one issue, which says so.
-/

namespace DocSplice

/-- The least number of characters of a description. -/
def leastDescriptionLength : Nat := 10

/-- What can be wrong with documentation. -/
inductive Issue where
  /-- There is none. -/
  | noDocumentation
  /-- The block does not have the shape of its convention. -/
  | shape (kind : SourceKind)
  | missingName (kind : SourceKind)
  | missingDescription (kind : SourceKind)
  | shortDescription
  | missingParameters (kind : SourceKind)
  /-- The header of the parameters stands in a query file without anything below it. -/
  | emptyParameters
  /-- The parameters of a docstring name neither a type nor their absence. -/
  | untypedParameters
  /-- The parameters above a function carry no tag. -/
  | untaggedParameters
  | missingReturns (kind : SourceKind)
  | emptyReturns (kind : SourceKind)
  /-- A query file shows no use of its query. -/
  | missingExample
  | emptyExample
  /-- The dashes below the header of the parameters are missing. -/
  | parametersNotUnderlined
  /-- The dashes below the header of the returns are missing. -/
  | returnsNotUnderlined
  /-- The line of the given number, counted from one, does not carry the marker. -/
  | unmarkedLine (number : Nat)
  deriving DecidableEq, Repr

/-- The sentence for an issue. -/
def Issue.message : Issue → String
  | .noDocumentation => "No documentation found."
  | .shape .structured => "Documentation does not follow NumPy docstring standard structure"
  | .shape .singleUnit => "Documentation does not follow SQL markdown standard structure"
  | .shape .patternBrace => "Documentation does not follow Roxygen2 standard structure"
  | .missingName .structured => "Missing function/class name"
  | .missingName .singleUnit => "Missing function/query name (-- # Header)"
  | .missingName .patternBrace => "Missing function name (could not extract from code)"
  | .missingDescription .singleUnit => "Missing description section (-- ## Description)"
  | .missingDescription _ => "Missing description section"
  | .shortDescription =>
    "Description is too short (minimum " ++ toString leastDescriptionLength ++ " characters)"
  | .missingParameters .structured => "Missing Parameters section"
  | .missingParameters .singleUnit => "Missing parameters section (-- ## Parameters)"
  | .missingParameters .patternBrace => "Missing @param tags"
  | .emptyParameters => "Empty parameters section"
  | .untypedParameters => "Parameters section should follow 'param_name : type' format"
  | .untaggedParameters => "Parameters should use @param tag format"
  | .missingReturns .structured => "Missing Returns section"
  | .missingReturns .singleUnit => "Missing returns section (-- ## Returns)"
  | .missingReturns .patternBrace => "Missing @return tag"
  | .emptyReturns .structured => "Empty Returns section"
  | .emptyReturns .singleUnit => "Empty returns section"
  | .emptyReturns .patternBrace => "Empty @return section"
  | .missingExample => "Missing example section (-- ## Example)"
  | .emptyExample => "Empty example section"
  | .parametersNotUnderlined => "Parameters section missing dashed underline (----------)"
  | .returnsNotUnderlined => "Returns section missing dashed underline (-------)"
  | .unmarkedLine number => "Line " ++ toString number ++ " does not start with #' marker"

namespace Validation

/-- The issue, when the condition holds. -/
def flagIf (condition : Bool) (issue : Issue) : List Issue := if condition then [issue] else []

@[simp] theorem flagIf_true (issue : Issue) : flagIf true issue = [issue] := rfl

@[simp] theorem flagIf_false (issue : Issue) : flagIf false issue = [] := rfl

/-- A section that is absent or holds blanks only. -/
def isBlankSection (s : Option Text) : Bool := s.all Text.allBlank

/-- Issues about the description. -/
def descriptionIssues (doc : Documentation) : List Issue :=
  match doc.description.map Text.trim with
  | none => [.missingDescription doc.kind]
  | some text =>
    if text.isEmpty then [.missingDescription doc.kind]
    else flagIf (text.length < leastDescriptionLength) .shortDescription

/-- The one issue for a section that is absent, the other for one that is blank. -/
def presenceIssues (missing empty : Issue) : Option Text → List Issue
  | none => [missing]
  | some text => flagIf (Text.allBlank text) empty

/-! ## Docstrings with underlined sections -/

/-- Ten dashes, below the header of the parameters. -/
def parametersRule : Text := List.replicate 10 '-'

/-- Seven dashes, below the header of the returns. -/
def returnsRule : Text := List.replicate 7 '-'

def parametersWord : Text := "Parameters".toList

def returnsWord : Text := "Returns".toList

/-- What stands for the parameters of a routine without any. -/
def noneWord : Text := "None".toList

/-- Three double quotes. -/
def tripleQuote : Text := ['"', '"', '"']

/-- Whether a docstring is quoted and shows both headers and both underlines. -/
def hasDocstringShape (raw : Text) : Bool :=
  Text.startsWith (Text.trimStart raw) tripleQuote
    && [parametersWord, parametersRule, returnsWord, returnsRule].all (Text.contains · raw)

/-- The issue of parameters that name neither a type nor their absence. -/
def parameterTypeIssues : Option Text → List Issue
  | none => [.missingParameters .structured]
  | some text =>
    flagIf (!List.contains text ':' && !Text.contains noneWord text) .untypedParameters

/-- The issues of a docstring. -/
def docstringIssues (doc : Documentation) : List Issue :=
  flagIf (!hasDocstringShape doc.raw) (.shape .structured)
    ++ flagIf (isBlankSection doc.name) (.missingName .structured)
    ++ descriptionIssues doc
    ++ parameterTypeIssues doc.parameters
    ++ presenceIssues (.missingReturns .structured) (.emptyReturns .structured) doc.returns
    ++ flagIf (Text.contains parametersWord doc.raw && !Text.contains parametersRule doc.raw)
      .parametersNotUnderlined
    ++ flagIf (Text.contains returnsWord doc.raw && !Text.contains returnsRule doc.raw)
      .returnsNotUnderlined

/-! ## Comment blocks with headers -/

/-- The headers that a comment block must show, in lower case. -/
def commentHeaders : List Text :=
  ["-- #".toList, "-- ## description".toList, "-- ## parameters".toList, "-- ## returns".toList,
   "-- ## example".toList]

/-- The issues of a comment block.  The headers are looked for without regard to case; none of them
holds a letter whose lower-case form belongs to a letter outside the ASCII range as well, so
lowering the ASCII letters decides it. -/
def commentIssues (doc : Documentation) : List Issue :=
  flagIf (!commentHeaders.all (Text.contains · (Text.lowerAscii doc.raw))) (.shape .singleUnit)
    ++ flagIf (isBlankSection doc.name) (.missingName .singleUnit)
    ++ descriptionIssues doc
    ++ presenceIssues (.missingParameters .singleUnit) .emptyParameters doc.parameters
    ++ presenceIssues (.missingReturns .singleUnit) (.emptyReturns .singleUnit) doc.returns
    ++ presenceIssues .missingExample .emptyExample doc.examples

/-! ## Marked lines with tags -/

/-- The marker of a documentation line above a function. -/
def lineMarker : Text := ['#', '\'']

/-- The tag of a parameter. -/
def parameterTag : Text := "@param".toList

/-- The tags that a block of marked lines must show. -/
def requiredTags : List Text := [lineMarker, parameterTag, "@return".toList]

/-- A line that is neither blank nor marked. -/
def isUnmarked (line : Text) : Bool :=
  !Text.allBlank line && !Text.startsWith (Text.trim line) lineMarker

/-- The issue of parameters without a tag. -/
def parameterTagIssues : Option Text → List Issue
  | none => [.missingParameters .patternBrace]
  | some text => flagIf (!Text.contains parameterTag text) .untaggedParameters

/-- The issue of the first line without a marker. -/
def markerIssues (lines : List Text) : List Issue :=
  match lines.findIdx? isUnmarked with
  | some row => [.unmarkedLine (row + 1)]
  | none => []

/-- The issues of a block of marked lines. -/
def markedLineIssues (doc : Documentation) : List Issue :=
  let lines := Text.terminatedLines doc.raw
  flagIf (!(requiredTags.all (Text.contains · doc.raw) && !lines.any isUnmarked))
      (.shape .patternBrace)
    ++ flagIf (isBlankSection doc.name) (.missingName .patternBrace)
    ++ descriptionIssues doc
    ++ parameterTagIssues doc.parameters
    ++ presenceIssues (.missingReturns .patternBrace) (.emptyReturns .patternBrace) doc.returns
    ++ markerIssues lines

end Validation

/-- The issues of documentation, by the convention of its kind. -/
def Documentation.issues (doc : Documentation) : List Issue :=
  match doc.kind with
  | .structured => Validation.docstringIssues doc
  | .singleUnit => Validation.commentIssues doc
  | .patternBrace => Validation.markedLineIssues doc

/-- The issues of what was found for an item: documentation, or none. -/
def validate : Option Documentation → List Issue
  | none => [.noDocumentation]
  | some doc => doc.issues

@[simp] theorem validate_none : validate none = [.noDocumentation] := rfl

/-- The one-line verdict about a list of issues. -/
def verdict (issues : List Issue) : String :=
  if issues.isEmpty then "VALID" else "INVALID (" ++ toString issues.length ++ " issues)"

end DocSplice
