import DocSplice.SourceKind

/-!
# Failures

What can go wrong is a cause, not a sentence; the sentence is made from the cause in one place.
`GenerationFailure` is the failure of one call to the generator, which costs one item its
documentation.  `Failure` ends the work on a file or on a whole command.
-/

namespace DocSplice

/-- Why one call to the documentation generator failed. -/
inductive GenerationFailure where
  | rateLimited (detail : String)
  | connectionFailed (detail : String)
  | serviceError (detail : String)
  deriving DecidableEq, Repr

/-- The sentence for a failed call. -/
def GenerationFailure.message : GenerationFailure → String
  | .rateLimited detail => "API rate limit exceeded: " ++ detail
  | .connectionFailed detail => "Failed to connect to the generation service: " ++ detail
  | .serviceError detail => "Generation service error: " ++ detail

/-- Why the file system refused an operation. -/
inductive StorageFailure where
  | notFound
  | permissionDenied
  | notADirectory
  | isADirectory
  | notText
  /-- Any other reason, in the words of the operating system. -/
  | other (reason : String)
  deriving DecidableEq, Repr

/-- The operating system's sentence for a refusal. -/
def StorageFailure.message : StorageFailure → String
  | .notFound => "No such file or directory (os error 2)"
  | .permissionDenied => "Permission denied (os error 13)"
  | .notADirectory => "Not a directory (os error 20)"
  | .isADirectory => "Is a directory (os error 21)"
  | .notText => "stream did not contain valid UTF-8"
  | .other reason => reason

/-- Why the work on a file or a command ended. -/
inductive Failure where
  /-- No kind handles the file of this name. -/
  | unsupportedFile (name : Text)
  /-- The documentation cannot be installed, or the result would not be a source of the kind. -/
  | corruption (kind : SourceKind) (reason : String)
  | generation (cause : GenerationFailure)
  /-- The file is not any more what was read. -/
  | changedOnDisk (path : Path)
  | configuration (reason : String)
  /-- The configuration file holds no settings that can be read. -/
  | malformedSettings
  | storage (cause : StorageFailure)
  | fileSystem (reason : String)
  deriving DecidableEq, Repr

/-- The sentence for a failure. -/
def Failure.message : Failure → String
  | .unsupportedFile name => "Unsupported file type: " ++ String.ofList name
  | .corruption kind reason =>
    "Documentation injection corrupted " ++ kind.language ++ " source: " ++ reason
  | .generation cause => "Generation failed: " ++ cause.message
  | .changedOnDisk path =>
    String.ofList path ++ " changed on disk while it was being documented"
  | .configuration reason => "Configuration error: " ++ reason
  | .malformedSettings => "Configuration error: the configuration file is malformed"
  | .storage cause => "IO error: " ++ cause.message
  | .fileSystem reason => "File system error: " ++ reason

/-- The kind of the file that a path names, or the complaint that there is none. -/
def SourceKind.ofPath (path : Path) : Except Failure SourceKind :=
  match SourceKind.ofPath? path with
  | some kind => .ok kind
  | none => .error (.unsupportedFile path)

/-- The kind of the files with an extension, or the complaint that there is none. -/
def SourceKind.ofExtension (extension : Text) : Except Failure SourceKind :=
  match SourceKind.ofExtension? extension with
  | some kind => .ok kind
  | none => .error (.unsupportedFile ('.' :: extension))

end DocSplice
