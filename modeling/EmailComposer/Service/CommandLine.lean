import EmailComposer.Composition.Compose
import EmailComposer.Json.Reader
import EmailComposer.Rendering.Email

namespace EmailComposer.CommandLine

/-!
# The command line

The program renders the payload in one file to standard output. What is wrong with
the email goes to the error output; an email with unusable URLs is not rendered.
-/

open EmailComposer.Text
open EmailComposer.Json
open EmailComposer.Composition

/-- What a run leaves behind; without an exit code it just ends. -/
structure Outcome where
  exitCode : Option Nat
  stdout : Text
  stderr : Text
  deriving Repr, DecidableEq

/-- Why a run breaks off. -/
inductive Failure where
  | json (error : ReadError)
  | noTemplateName
  | notSubscriptable (payload : Value)
  | compose (error : ComposeError)
  deriving Repr

/-- The wording of a failure that is no list of faults. -/
def Failure.message : Failure → Text
  | .json error => error.message
  | .noTemplateName => quoted "templateType"
  | .notSubscriptable (.array _) => "list indices must be integers or slices, not str"
  | .notSubscriptable (.string _) => "string indices must be integers, not 'str'"
  | .notSubscriptable payload => quoted payload.typeName ++ " object is not subscriptable"
  | .compose error => error.message

/-- The payload in the text of a file. All line breaks count alike. -/
def readPayload (content : Text) : Except Failure Value :=
  (Json.read (unifyLineBreaks content)).mapError .json

/-- The members of a payload, which has to be an object. -/
def payloadMembers : Value → Except Failure Members
  | .object members => .ok members
  | other => .error (.notSubscriptable other)

/-- Composes the email of a payload. -/
def composePayload (settings : Settings) (members : Members) : Except Failure Document :=
  match members.get? "templateType" with
  | none => .error .noTemplateName
  | some templateName =>
      let blocks := (members.get? "blocks").getD (.array [])
      let personalData := (members.get? "personalizationVariables").getD .null
      (compose settings templateName blocks personalData).mapError .compose

/-- The line about an issue in the error output. -/
def issueLine (issue : Issue) : Text :=
  "[" ++ issue.code ++ "] " ++ issue.message ++ "\n"

/-- Renders the email of a payload. -/
def render (settings : Settings) (payload : Value) : Except Failure Outcome := do
  let members ← payloadMembers payload
  let document ← composePayload settings members
  let stderr := document.validationErrors.flatMap issueLine
  if (urlIssues document).isEmpty then
    let inlineStyles := (members.get? "inlineCss").any Value.isTruthy
    return ⟨some 0, document.render settings inlineStyles ++ "\n", stderr⟩
  else
    return ⟨some 1, [], stderr⟩

/-- What is said to someone who does not name exactly one file. -/
def usage : Outcome :=
  ⟨some 2, [], "Usage: main.py <payload.json>\n"⟩

/-- What is said where requests are served instead. -/
def serving : Outcome :=
  ⟨none, "Running in cloud environment (Functions Framework)\n", []⟩

/-- The environment says that requests are served. -/
def isServing (environment : Environment) : Bool :=
  environment.hasText "PORT" || environment.hasText "FUNCTION_TARGET"

/-- One run with a number of arguments and the payload in the file that they name. -/
def run
    (environment : Environment)
    (settings : Settings)
    (argumentCount : Nat)
    (payload : Except Failure Value) : Except Failure Outcome :=
  if isServing environment then
    .ok serving
  else if argumentCount = 1 then
    payload >>= render settings
  else
    .ok usage

/-- The exit status of a process. A run that breaks off ends with one as well, and a run that
just ends with zero. -/
def exitStatus : Except Failure Outcome → Nat
  | .ok outcome => outcome.exitCode.getD 0
  | .error _ => 1

/-- What a process prints to standard output: nothing if the run breaks off. -/
def printed : Except Failure Outcome → Text
  | .ok outcome => outcome.stdout
  | .error _ => []

/-- What a process tells on the error output: why the run broke off, if it did. -/
def told : Except Failure Outcome → Text
  | .ok outcome => outcome.stderr
  | .error failure => failure.message ++ "\n"

end EmailComposer.CommandLine
