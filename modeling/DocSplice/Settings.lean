import DocSplice.Detail
import DocSplice.Text.Blank
import DocSplice.Toml.Printer
import DocSplice.Toml.Reader

/-!
# Settings

Settings come from a configuration file, which may leave out any of them: what is missing keeps its
default, and what is not known is passed over.  They have two sections, one about the generator and
one about the files to look at.

* `Settings.read?` reads the text of a configuration file and `Settings.text` writes one.
* The key for the generator may come from the environment instead; `GenerationSettings.resolveKey`
  looks it up under the name that belongs to the provider.  A blank key counts as none.
-/

namespace DocSplice

/-- Settings of the documentation generator. -/
structure GenerationSettings where
  /-- The service that writes the documentation. -/
  provider : Text
  model : Text
  apiKey : Option Text
  /-- The address of the service, if it is not the usual one. -/
  baseUrl : Option Text
  /-- The greatest length of an answer. -/
  maxTokens : Option Nat
  /-- How freely the model may choose its words, as a binary number of four bytes. -/
  temperature : Option BinaryNumber
  /-- The level of detail when a command chooses none. -/
  detail : Detail
  deriving DecidableEq, Repr

/-- Settings about the files that are looked at. -/
structure ProcessingSettings where
  /-- The size in bytes from which on a file is too large; a file of this size is not. -/
  maxFileSize : Nat
  /-- Whether ignore files are respected. -/
  respectIgnoreFiles : Bool
  /-- Whether hidden files are looked at. -/
  includeHidden : Bool
  deriving DecidableEq, Repr

/-- All settings. -/
structure Settings where
  generation : GenerationSettings
  processing : ProcessingSettings
  deriving DecidableEq, Repr

/-- The settings of a generator without a configuration file. -/
def GenerationSettings.default : GenerationSettings where
  provider := "anthropic".toList
  model := "claude-3-5-sonnet-20241022".toList
  apiKey := none
  baseUrl := none
  maxTokens := some 4096
  temperature := some (BinaryFormat.single.ofDecimal false 2 (-1))
  detail := .concise

/-- The settings about files without a configuration file. -/
def ProcessingSettings.default : ProcessingSettings := ⟨1048576, true, false⟩

/-- The settings without a configuration file. -/
def Settings.default : Settings := ⟨.default, .default⟩

/-! ## Reading -/

namespace Settings

/-- The entries of a section.  A section may also be written as an array of its values in the order
of their names. -/
def sectionEntries? (names : List String) : Toml.Value → Option (List (Text × Toml.Value))
  | .table entries => some entries
  | .array values => some ((names.map String.toList).zip values)
  | _ => none

/-- A setting of a section: its default where it is missing, nothing where it cannot be read. -/
def setting? {α : Type} (entries : List (Text × Toml.Value)) (name : String) (default : α)
    (read? : Toml.Value → Option α) : Option α :=
  match entries.find? (·.1 == name.toList) with
  | none => some default
  | some entry => read? entry.2

/-- The names of the settings of the generator. -/
def generationNames : List String :=
  ["provider", "model", "api_key", "base_url", "max_tokens", "temperature", "detail_level"]

/-- The names of the settings about files. -/
def processingNames : List String := ["max_file_size", "respect_gitignore", "include_hidden"]

/-- The settings of the generator in a section. -/
def generation? (v : Toml.Value) : Option GenerationSettings := do
  let usual := GenerationSettings.default
  let entries ← sectionEntries? generationNames v
  let provider ← setting? entries "provider" usual.provider Toml.Value.text?
  let model ← setting? entries "model" usual.model Toml.Value.text?
  let apiKey ← setting? entries "api_key" usual.apiKey fun v => v.text?.map some
  let baseUrl ← setting? entries "base_url" usual.baseUrl fun v => v.text?.map some
  let maxTokens ← setting? entries "max_tokens" usual.maxTokens fun v =>
    (v.natBelow? (Nat.pow 2 32)).map some
  let temperature ← setting? entries "temperature" usual.temperature fun v =>
    (v.number? .single).map some
  let detail ← setting? entries "detail_level" usual.detail fun v => v.text?.bind Detail.ofWord?
  some ⟨provider, model, apiKey, baseUrl, maxTokens, temperature, detail⟩

/-- The settings about files in a section. -/
def processing? (v : Toml.Value) : Option ProcessingSettings := do
  let usual := ProcessingSettings.default
  let entries ← sectionEntries? processingNames v
  let maxFileSize ← setting? entries "max_file_size" usual.maxFileSize (·.natBelow? (Nat.pow 2 64))
  let respect ← setting? entries "respect_gitignore" usual.respectIgnoreFiles (·.boolean?)
  let hidden ← setting? entries "include_hidden" usual.includeHidden (·.boolean?)
  some ⟨maxFileSize, respect, hidden⟩

/-- The settings in a document. -/
def ofDocument? (document : Toml.Value) : Option Settings := do
  let entries ← sectionEntries? [] document
  let generation ← setting? entries "generation" GenerationSettings.default generation?
  let processing ← setting? entries "processing" ProcessingSettings.default processing?
  some ⟨generation, processing⟩

/-- The settings in the text of a configuration file. -/
def read? (t : Text) : Option Settings := (Toml.read? t).bind ofDocument?

/-! ## Writing -/

/-- The line of a setting that may be missing. -/
def optionalLine {α : Type} (key : String) (value : Option α) (write : α → Text) : List Text :=
  match value with
  | some v => [Toml.entryLine key (write v)]
  | none => []

/-- The lines of the settings of the generator. -/
def generationLines (g : GenerationSettings) : List Text :=
  [Toml.entryLine "provider" (Toml.stringText g.provider),
    Toml.entryLine "model" (Toml.stringText g.model)]
  ++ optionalLine "api_key" g.apiKey Toml.stringText
  ++ optionalLine "base_url" g.baseUrl Toml.stringText
  ++ optionalLine "max_tokens" g.maxTokens Decimal.digitsText
  ++ optionalLine "temperature" g.temperature (Toml.floatText .double)
  ++ [Toml.entryLine "detail_level" (Toml.stringText g.detail.word.toList)]

/-- The lines of the settings about files. -/
def processingLines (p : ProcessingSettings) : List Text :=
  [Toml.entryLine "max_file_size" (Decimal.digitsText p.maxFileSize),
    Toml.entryLine "respect_gitignore" (Toml.booleanText p.respectIgnoreFiles),
    Toml.entryLine "include_hidden" (Toml.booleanText p.includeHidden)]

/-- The text of a configuration file with the settings. -/
def text (s : Settings) : Text :=
  Toml.tableText "generation" (generationLines s.generation)
    ++ '\n' :: Toml.tableText "processing" (processingLines s.processing)

/-- The names of the configuration files that are looked for where none is given, in order. -/
def candidates : List Text :=
  ["Docstamp.toml".toList, "docstamp.toml".toList, ".docstamp.toml".toList]

end Settings

/-! ## The key for the generator -/

namespace GenerationSettings

/-- The names of the environment variables that may hold a key. -/
def keyVariables : List String := ["ANTHROPIC_API_KEY", "OPENAI_API_KEY"]

/-- The name of the environment variable that may hold the key. -/
def keyVariable (g : GenerationSettings) : String :=
  if g.provider = "openai".toList then "OPENAI_API_KEY" else "ANTHROPIC_API_KEY"

theorem keyVariable_mem (g : GenerationSettings) : g.keyVariable ∈ keyVariables := by
  unfold keyVariable keyVariables
  split <;> simp

/-- The key, if there is one that is not blank. -/
def usableKey? (key : Option Text) : Option Text := key.filter fun k => !Text.allBlank k

/-- The settings with the key of the environment, if they have none of their own. -/
def resolveKey (g : GenerationSettings) (environment : String → Option Text) :
    GenerationSettings :=
  if (usableKey? g.apiKey).isSome then g
  else { g with apiKey := usableKey? (environment g.keyVariable) }

/-- What may be said about the key without giving it away. -/
def keyStatus (g : GenerationSettings) : Text :=
  match g.apiKey with
  | none => "not configured".toList
  | some key =>
    if 12 < key.length then
      "configured (".toList ++ key.take 8 ++ "...".toList ++ key.drop (key.length - 4) ++ [')']
    else "configured".toList

end GenerationSettings

end DocSplice
