import Bookwarden.Isbn.Agreement
import Bookwarden.Llm.Shape

/-!
# The router to the language models

`llm/router.py` picks a provider and, when it is not a local one, takes text and images out of a
request before it leaves the host. A response is its content; the raw response of the provider is
left out.

## Main definitions

* `LLMRequest`, `LLMProvider`, `LLMRouter`
* `applyPrivacyFilters`
* `LLMRouter.executeStructured`, `LLMRouter.executeChat`
-/

namespace Bookwarden.Llm

/-- `LLMRequest`. -/
structure LLMRequest where
  messages : List Entries
  model : String
  temperature : ℚ := 0
  jsonSchema : Bool := false
  maxTokens : Option ℤ := none

/-- The content of an `LLMResponse`, or of what a stand-in for the router answers. -/
inductive Content
  | text (s : String)
  | dict (kvs : Entries)
  | other (typeName : String)

/-- `LLMProvider`. -/
structure LLMProvider where
  name : String
  isLocal : Bool
  structured : LLMRequest → Value → Except PyError Content
  chat : LLMRequest → Except PyError Content

/-- `PrivacySettings`, the part that the filter reads. -/
structure PrivacySettings where
  allowRemoteText : Bool := false
  allowRemoteImages : Bool := false

/-- What stands for a text that is not sent. -/
def hiddenText : Value := .str "[HIDDEN FOR PRIVACY]"

/-- `item[key] = value` on a dictionary, which has a key once at most. -/
def assign (key : String) (value : Value) (kvs : Entries) : Entries :=
  if key ∈ Assoc.keys kvs then kvs.map fun p => if p.1 = key then (key, value) else p
  else kvs ++ [(key, value)]

/-- `type(value).__name__`. -/
def typeName : Value → String
  | .null => "NoneType"
  | .bool _ => "bool"
  | .int _ => "int"
  | .float _ => "float"
  | .str _ => "str"
  | .list _ => "list"
  | .dict _ => "dict"

/-- One item of a content list: what is sent of it. -/
def filterItem (privacy : PrivacySettings) : Value → Except PyError (Option Value)
  | .dict item =>
    if hasType "image_url" item && !privacy.allowRemoteImages then .ok none
    else if hasType "text" item && !privacy.allowRemoteText then
      .ok (some (.dict (assign "text" hiddenText item)))
    else .ok (some (.dict item))
  | item => .error ⟨.other, "'" ++ typeName item ++ "' object has no attribute 'get'"⟩

/-- The loop over the items of a content list. -/
def filterItems (privacy : PrivacySettings) : List Value → Except PyError (List Value)
  | [] => .ok []
  | item :: items => do
    let kept ← filterItem privacy item
    let rest ← filterItems privacy items
    return kept.toList ++ rest

/-- One message. -/
def filterMessage (privacy : PrivacySettings) (msg : Entries) : Except PyError Entries :=
  match Assoc.get? "content" msg with
  | some (.list items) => do
    let newContent ← filterItems privacy items
    return assign "content" (.list newContent) msg
  | some (.str _) =>
    if privacy.allowRemoteText then .ok msg else .ok (assign "content" hiddenText msg)
  | _ => .ok msg

/-- The request of the caller as the filter leaves it, and what the filter returns. -/
structure Filtered where
  caller : LLMRequest
  result : Except PyError LLMRequest

/-- `LLMRouter._apply_privacy_filters`. Everything is written into a deep copy. -/
def applyPrivacyFilters (privacy : PrivacySettings) (provider : LLMProvider)
    (request : LLMRequest) : Filtered where
  caller := request
  result :=
    if provider.isLocal then .ok request
    else (request.messages.mapM (filterMessage privacy)).map fun filteredMessages =>
      { request with messages := filteredMessages }

/-- The part of `Settings` that the router reads. -/
structure RouterSettings where
  judgeModel : String
  visionModel : String
  openAiApiKey : Option String
  privacy : PrivacySettings

/-- `LLMRouter`, with the providers in the order of their registration. -/
structure LLMRouter where
  settings : RouterSettings
  providers : List (String × LLMProvider)

namespace LLMRouter

/-- `get_provider_for_task`. -/
def getProviderForTask (py : Runtime) (router : LLMRouter) (task : String) :
    Except PyError LLMProvider :=
  let model := py.lower
    (if task = "vision" then router.settings.visionModel else router.settings.judgeModel)
  let named (key : String) : Option LLMProvider :=
    if hasInfix key.toList model.toList then
      Assoc.get? (if key = "gemini" then "google" else key) router.providers
    else none
  let openai : Option LLMProvider :=
    match router.settings.openAiApiKey with
    | some key => if strip key ≠ "" then Assoc.get? "openai" router.providers else none
    | none => none
  match (named "gemini").or ((named "lmstudio").or (openai.or
      ((Assoc.get? "ollama" router.providers).or (router.providers.head?.map Prod.snd)))) with
  | some provider => .ok provider
  | none => .error ⟨.value, "No LLM providers configured"⟩

/-- `execute_structured`. -/
def executeStructured (py : Runtime) (router : LLMRouter) (task : String) (request : LLMRequest)
    (schema : Value) : Except PyError Content := do
  let provider ← router.getProviderForTask py task
  let request ← (applyPrivacyFilters router.settings.privacy provider request).result
  provider.structured request schema

/-- `execute_chat`. -/
def executeChat (py : Runtime) (router : LLMRouter) (task : String) (request : LLMRequest) :
    Except PyError Content := do
  let provider ← router.getProviderForTask py task
  let request ← (applyPrivacyFilters router.settings.privacy provider request).result
  provider.chat request

end LLMRouter

end Bookwarden.Llm
