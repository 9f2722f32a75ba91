import EmailComposer.Composition.Compose
import EmailComposer.Rendering.Email

namespace EmailComposer.Service

/-!
# The web service

Requests to render or to validate an email are posted as JSON. The root answers
whether the service is alive. With the built-in layout every document has its page, so
there is no answer that rendering failed.
-/

open EmailComposer.Text
open EmailComposer.Json
open EmailComposer.Composition
open EmailComposer.Schema

/-- A request: where to, by which method, and the JSON of its body. -/
structure Request where
  path : Text
  method : Text
  payload : Value
  deriving Repr

/-- The body of an answer. -/
inductive Body where
  | html (page : Text)
  | json (value : Value)
  deriving Repr

/-- An answer. -/
structure Response where
  status : Nat
  body : Body
  deriving Repr

namespace Response

/-- The headers of an answer: a page says what it is. -/
def headers (response : Response) : List (Text × Text) :=
  match response.body with
  | .html _ => [("Content-Type", "text/html; charset=utf-8")]
  | .json _ => []

/-- An answer that only says what went wrong. -/
def error (status : Nat) (message : Text) : Response :=
  ⟨status, .json (.object [("error", .string message)])⟩

/-- An answer that says what went wrong and lists the particulars. -/
def errorWith (status : Nat) (message key : Text) (particulars : Value) : Response :=
  ⟨status, .json (.object [("error", .string message), (key, particulars)])⟩

end Response

/-- The parts of a request body. -/
structure Payload where
  templateName : Text
  blocks : List Value
  personalData : Value
  strict : Bool
  inlineStyles : Bool
  deriving Repr

/-- What is wrong with the shape of a request body. -/
inductive PayloadError where
  | noObject
  | noTemplate
  | noBlockList
  | noPersonalData
  deriving Repr, DecidableEq

/-- The wording of a fault of a request body. -/
def PayloadError.message : PayloadError → Text
  | .noObject => "Request body must be a JSON object"
  | .noTemplate => "templateType is required"
  | .noBlockList => "blocks must be a list"
  | .noPersonalData => "personalizationVariables must be an object"

/-- A switch among the members of a request body: off if it is left out. -/
def isSet (members : Members) (key : Text) : Bool :=
  (members.get? key).any Value.isTruthy

/-- The name of the template in a request body. -/
def readTemplateName (members : Members) : Except PayloadError Text :=
  match members.get? "templateType" with
  | some (.string (first :: rest)) => .ok (first :: rest)
  | _ => .error .noTemplate

/-- The raw blocks in a request body. -/
def readBlocks (members : Members) : Except PayloadError (List Value) :=
  match members.get? "blocks" with
  | some (.array blocks) => .ok blocks
  | _ => .error .noBlockList

/-- The personal data in a request body. -/
def readPersonalData (members : Members) : Except PayloadError Value :=
  match members.get? "personalizationVariables" with
  | none => .ok .null
  | some .null => .ok .null
  | some (.object entries) => .ok (.object entries)
  | some _ => .error .noPersonalData

/-- Reads a request body. -/
def readPayload : Value → Except PayloadError Payload
  | .object members => do
      let templateName ← readTemplateName members
      let blocks ← readBlocks members
      let personalData ← readPersonalData members
      return ⟨templateName, blocks, personalData, isSet members "strict",
        isSet members "inlineCss"⟩
  | _ => .error .noObject

/-- The answer to a request whose document could not be composed. A block that is no
object at all is left to the caller. -/
def refusal : ComposeError → Except ComposeError Response
  | .template error => .ok (.error 400 error.message)
  | .invalid faults =>
      .ok (.errorWith 400 "Invalid blocks" "details" (.array (faults.map Fault.report)))
  | other => .error other

/-- Answers with what becomes of the document in a request body. -/
def withDocument
    (settings : Settings)
    (request : Request)
    (answer : Payload → Document → Response) : Except ComposeError Response :=
  match readPayload request.payload with
  | .error error => .ok (.error 400 error.message)
  | .ok payload =>
      match compose settings (.string payload.templateName) (.array payload.blocks)
          payload.personalData with
      | .ok document => .ok (answer payload document)
      | .error error => refusal error

/-- Renders a document. Unusable URLs are never rendered, and in strict mode nothing
that has issues is. -/
def render (settings : Settings) (payload : Payload) (document : Document) : Response :=
  let rejected := urlIssues document
  if !rejected.isEmpty then
    .errorWith 422 "Email contains unsafe URLs" "issues" (Issue.dumpAll rejected)
  else if payload.strict && document.isValid != some true then
    .errorWith 422 "Email failed validation" "issues"
      (Issue.dumpAll document.validationErrors)
  else
    ⟨200, .html (document.render settings payload.inlineStyles)⟩

/-- Answers with the validation summary of a document. -/
def validate (payload : Payload) (document : Document) : Response :=
  ⟨200, .json (ValidationSummary.ofDocument document payload.strict).dump⟩

/-- Says that the service is alive, and when. -/
def health (timestamp : Text) : Response :=
  let members : Members :=
    [("status", .string "healthy"), ("service", .string "mailblocks"),
      ("timestamp", .string timestamp)]
  ⟨200, .json (.object members)⟩

/-- What a path leads to. -/
inductive Route where
  | root
  | render
  | validate
  deriving Repr, DecidableEq

namespace Route

/-- The route of a path; slashes at its end do not count. -/
def find? (path : Text) : Option Route :=
  match dropEndWhile (· == '/') path with
  | [] => some .root
  | trimmed =>
      if trimmed = "/render" then
        some .render
      else if trimmed = "/validate" then
        some .validate
      else
        none

/-- The only method that a route takes. -/
def method : Route → Text
  | .root => "GET"
  | .render => "POST"
  | .validate => "POST"

end Route

/-- Answers a request that arrives at some time. -/
def handle
    (settings : Settings)
    (timestamp : Text)
    (request : Request) : Except ComposeError Response :=
  match Route.find? request.path with
  | none => .ok (.error 404 "Not found")
  | some route =>
      if request.method = route.method then
        match route with
        | .root => .ok (health timestamp)
        | .render => withDocument settings request (render settings)
        | .validate => withDocument settings request validate
      else
        .ok (.error 405 "Method not allowed")

end EmailComposer.Service
