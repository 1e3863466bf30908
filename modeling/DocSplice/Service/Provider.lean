import DocSplice.Generator
import DocSplice.Json.Reader
import DocSplice.Reply
import DocSplice.Service.Address
import DocSplice.Service.Message
import DocSplice.Settings

/-!
# Providers

The services that can write documentation.  Two are known; they differ in where a request goes, how
it carries the key, how the prompt is wrapped and where the answer holds the text.

`Service.ofSettings` makes a service out of settings, which have to name a known provider and to
hold a key.  `Service.generator` is the generator that asks the service: it sends the prompt of a
call and cleans the text that comes back.  Whatever goes wrong on the way is the failure of that
call.
-/

namespace DocSplice

/-- A service that writes documentation. -/
inductive Provider where
  | anthropic
  | openAi
  deriving DecidableEq, Repr

namespace Provider

/-- Every provider. -/
def all : List Provider := [.anthropic, .openAi]

/-- The word for a provider in settings. -/
def word : Provider → String
  | .anthropic => "anthropic"
  | .openAi => "openai"

/-- The name of a provider. -/
def name : Provider → String
  | .anthropic => "Anthropic"
  | .openAi => "OpenAI"

/-- The provider that a word stands for. -/
def ofWord? (word : Text) : Option Provider := all.find? fun p => p.word.toList = word

/-- The usual address. -/
def usualBase : Provider → String
  | .anthropic => "https://api.anthropic.com"
  | .openAi => "https://api.openai.com"

/-- Where requests go below the address. -/
def endpoint : Provider → String
  | .anthropic => "/v1/messages"
  | .openAi => "/v1/chat/completions"

/-- The headers that carry the key. -/
def headers (key : Text) : Provider → List (String × Text)
  | .anthropic => [("x-api-key", key), ("anthropic-version", "2023-06-01".toList)]
  | .openAi => [("authorization", "Bearer ".toList ++ key)]

/-- A message of a conversation. -/
def message (role : String) (content : Text) : Json.Value :=
  .record [("role", .ofString role), ("content", .string content)]

/-- What the model is told about its task, where a conversation has a place for it. -/
def task : String :=
  "You are an expert software documentation assistant. Reply with documentation only."

/-- The conversation around a prompt. -/
def messages (prompt : Text) : Provider → List Json.Value
  | .anthropic => [message "user" prompt]
  | .openAi => [message "system" task.toList, message "user" prompt]

/-- The text in an answer: all text blocks put together, or the content of the first choice. -/
def answerText? (answer : Json.Value) : Provider → Option Text
  | .anthropic => do
    let blocks ← (← answer.member? "content").elements?
    let isText (block : Json.Value) : Bool :=
      ((block.member? "type").bind Json.Value.text?) == some "text".toList
    let text := ((blocks.filter isText).filterMap fun block =>
      (block.member? "text").bind Json.Value.text?).flatten
    if text.isEmpty then none else some text
  | .openAi => do
    let choice ← (← answer.member? "choices").element? 0
    (← (← choice.member? "message").member? "content").text?

/-- The complaint that an answer holds no text. -/
def noText : Provider → String
  | .anthropic => "response contained no text"
  | .openAi => "response contained no message"

end Provider

/-- A provider with all that is needed to ask it. -/
structure Service where
  provider : Provider
  settings : GenerationSettings
  key : Text
  deriving DecidableEq, Repr

namespace Service

/-- The complaint that there is no key. -/
def missingKey (g : GenerationSettings) : Failure :=
  .configuration ("API key required for provider '" ++ String.ofList g.provider ++ "'; set "
    ++ g.keyVariable ++ " or pass --api-key")

/-- The service that settings describe. -/
def ofSettings (g : GenerationSettings) : Except Failure Service :=
  match Provider.ofWord? g.provider with
  | none =>
    .error (.configuration ("Unsupported generation provider: " ++ String.ofList g.provider))
  | some provider =>
    match GenerationSettings.usableKey? g.apiKey with
    | none => .error (missingKey g)
    | some key => .ok ⟨provider, g, key⟩

/-! ## Requests -/

/-- The address that requests go to, as the settings give it. -/
def url (s : Service) : Text :=
  let base := s.settings.baseUrl.getD s.provider.usualBase.toList
  Text.dropEndWhile (· == '/') base ++ s.provider.endpoint.toList

/-- The address that requests go to, if it is one. -/
def address? (s : Service) : Option Address := Address.read? s.url

/-- The value that is sent for a prompt. -/
def payload (s : Service) (prompt : Text) : Json.Value :=
  let temperature :=
    s.settings.temperature.getD (BinaryFormat.single.ofDecimal false 2 (-1))
  .record [("model", .string s.settings.model),
    ("max_tokens", .ofNat (s.settings.maxTokens.getD 4096)),
    ("temperature", .ofBinary .double temperature),
    ("messages", .array (s.provider.messages prompt))]

/-- The request for a prompt. -/
def request (s : Service) (address : Address) (prompt : Text) : Request :=
  ⟨address.text, s.provider.headers s.key, s.payload prompt⟩

/-- Whether a text may be the value of a header. -/
def isHeaderValue (t : Text) : Bool :=
  t.all fun c => c == '\t' || (32 ≤ c.toNat && c.toNat != 127)

/-! ## Answers -/

/-- The failure of a request that no answer came for. -/
def lostRequest (url : Text) : String :=
  "error sending request for url (" ++ String.ofList url ++ ")"

/-- The failure that a status without success stands for. -/
def statusFailure (status : Nat) (body : Text) : GenerationFailure :=
  let detail := statusText status ++ ": " ++ String.ofList body
  if status = tooManyRequests then .rateLimited detail else .serviceError detail

/-- The documentation in a text that a service answered with. -/
def cleanText (text : Text) : Except GenerationFailure Text :=
  match Reply.clean? text with
  | some documentation => .ok documentation
  | none => .error (.serviceError "empty documentation in response")

/-- The documentation in the body of an answer. -/
def readAnswer (p : Provider) (body : Text) : Except GenerationFailure Text :=
  match Json.read? body with
  | none => .error (.serviceError "Failed to parse response: error decoding response body")
  | some answer =>
    match p.answerText? answer with
    | none => .error (.serviceError p.noText)
    | some text => cleanText text

/-- The documentation in what came back for a request to an address. -/
def interpret (s : Service) (address : Address) : Outcome → Except GenerationFailure Text
  | .unreachable => .error (.connectionFailed (lostRequest address.text))
  | .interrupted => .error (.serviceError (lostRequest address.text))
  | .answered status body =>
    if isSuccess status then readAnswer s.provider body else .error (statusFailure status body)

/-- The failure of a request that cannot be made. -/
def impossibleRequest : GenerationFailure := .serviceError "builder error"

/-- The generator that asks the service. -/
def generator {m : Type → Type} [Monad m] (s : Service) (transport : Transport m) : Generator m :=
  fun call => do
    match s.address? with
    | none => return .error impossibleRequest
    | some address =>
      if isHeaderValue s.key then
        return s.interpret address (← transport (s.request address call.prompt))
      else return .error impossibleRequest

end Service

end DocSplice
