import DocSplice.Detail
import DocSplice.SourceKind

/-!
# Prompts

What a generator is asked.  A prompt says which convention the documentation has to follow, how
detailed it is to be and how to answer, and it quotes the code verbatim; a prompt for a repair also
quotes the existing documentation.  Nothing in the quoted texts is interpreted.
-/

namespace DocSplice.Prompt

/-- The convention of a kind, spelled out for the generator. -/
def requirements : SourceKind → List String
  | .structured => [
    "Follow the NumPy docstring standard exactly:",
    "",
    "Short one-line summary.",
    "",
    "Extended description of behaviour, when it adds information.",
    "",
    "Parameters",
    "----------",
    "param_name : type",
    "    Description, continuation lines indented 4 spaces.",
    "other_param : type, optional",
    "    Mark optional parameters as optional.",
    "",
    "Returns",
    "-------",
    "return_type",
    "    What is returned, with its type and structure.",
    "",
    "Raises",
    "------",
    "ExceptionType",
    "    When the exception is raised (only if the code raises).",
    "",
    "Examples",
    "--------",
    ">>> function_name(arg1, arg2)",
    "expected_output",
    "",
    "Write \"None\" under Parameters when there are no parameters. Use accurate types."]
  | .singleUnit => [
    "Use SQL line comments (-- on every line) in exactly this structure:",
    "",
    "-- # Function or Query Name",
    "--",
    "-- ## Description",
    "-- What the query or routine does, including side effects (INSERT, UPDATE, DELETE).",
    "--",
    "-- ## Parameters",
    "-- - `parameter_name` (TYPE): description, or \"None\" when there are none",
    "--",
    "-- ## Returns",
    "-- - TYPE: description of the result set or return value",
    "--",
    "-- ## Example",
    "-- A realistic invocation."]
  | .patternBrace => [
    "Use Roxygen2 comments (#' on every line) in exactly this structure:",
    "",
    "#' Short title on one line",
    "#'",
    "#' Description of what the function does and any notable behaviour.",
    "#'",
    "#' @param param_name Description including the expected type. Continuation",
    "#'   lines are indented 2 spaces.",
    "#' @return Type and structure of the return value.",
    "#' @examples",
    "#' result <- function_name(arg1, arg2)",
    "#' @export",
    "",
    "Only add @export for functions meant to be exported. Follow R community conventions."]

/-- What the answer is to consist of. -/
def answerForm : SourceKind → String
  | .structured =>
    "Return ONLY the docstring text (what goes between the triple quotes), without the "
      ++ "quotes and without a code fence."
  | .singleUnit =>
    "Return ONLY the comment lines (each starting with --), ready to be placed at the "
      ++ "top of the file."
  | .patternBrace =>
    "Return ONLY the Roxygen2 lines (each starting with #'), ready to be placed directly "
      ++ "above the function."

/-- What a level of detail means. -/
def density : Detail → String
  | .minimal =>
    "Keep every required section but limit each to one or two short lines. Give a single "
      ++ "example."
  | .concise =>
    "Cover every required section with brief, precise sentences and one realistic "
      ++ "example."
  | .verbose =>
    "Explain behaviour, edge cases and error conditions in depth, and give several "
      ++ "examples."

/-- Lines put together. -/
def paragraph (lines : List String) : Text := Text.join '\n' (lines.map String.toList)

/-- A heading and what stands below it, followed by an empty line. -/
def part (heading : String) (body : Text) : Text :=
  heading.toList ++ '\n' :: body ++ ['\n', '\n']

/-- Who is asked. -/
def opening (kind : SourceKind) : Text :=
  ("You are a technical documentation expert specializing in " ++ kind.language ++ ".\n\n").toList

/-- What is required, and how detailed the answer is to be. -/
def demands (kind : SourceKind) (detail : Detail) : Text :=
  part "REQUIREMENTS:" (paragraph (requirements kind))
    ++ part ("DETAIL LEVEL (" ++ detail.word ++ "):") (density detail).toList

/-- The prompt that asks for documentation of code that has none. -/
def generate (kind : SourceKind) (detail : Detail) (code : Text) : Text :=
  opening kind
    ++ ("Write " ++ kind.standard ++ " documentation for the " ++ kind.language
      ++ " code below.\n\n").toList
    ++ demands kind detail
    ++ part "CODE TO DOCUMENT:" code
    ++ (answerForm kind).toList

/-- How existing documentation is to be treated. -/
def repairInstructions : List String :=
  ["Keep whatever in the existing documentation is accurate. Correct the format and",
    "structure, add every missing section, and make the examples realistic."]

/-- The prompt that asks for a repair of documentation that does not follow its convention. -/
def update (kind : SourceKind) (detail : Detail) (existing code : Text) : Text :=
  opening kind
    ++ ("The existing documentation below does not meet the " ++ kind.standard
      ++ " standard. Fix it.\n\n").toList
    ++ part "EXISTING DOCUMENTATION:" existing
    ++ part "CODE BEING DOCUMENTED:" code
    ++ demands kind detail
    ++ part "INSTRUCTIONS:" (paragraph repairInstructions)
    ++ (answerForm kind).toList

end DocSplice.Prompt
