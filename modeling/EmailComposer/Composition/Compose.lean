import EmailComposer.Block.Sanitize
import EmailComposer.Document.Defaults
import EmailComposer.Document.Schema
import EmailComposer.Validation.Summary

namespace EmailComposer.Composition

/-!
# Composing documents

A document is composed from the name of a template and raw blocks. The blocks are read
and sanitized one after the other, the fixed sections come from the settings, and the
result is validated. A block that is refused for its URL is recorded as an issue and
sanitized again with the URL left alone; any other fault ends the composition.
-/

open EmailComposer.Text
open EmailComposer.Json
open EmailComposer.Schema

/-- Why no document was composed. -/
inductive ComposeError where
  | template (error : Template.LookupError)
  | noBlockList (typeName : Text)
  | noBlock (typeName : Text)
  | rejected (rejection : UrlRejection)
  | invalid (faults : List Fault)
  deriving Repr

/-- The wording of a failure that is no list of faults. -/
def ComposeError.message : ComposeError → Text
  | .template error => error.message
  | .noBlockList typeName => "'" ++ typeName ++ "' object is not iterable"
  | .noBlock typeName => "Unsupported block: " ++ typeName
  | .rejected rejection => rejection.message
  | .invalid _ => []

/-- The raw blocks that a value holds: the elements of an array, the keys of an object
or the characters of a text. -/
def rawBlocks : Value → Except ComposeError (List Value)
  | .array elements => .ok elements
  | .object members => .ok (members.map fun member => .string member.1)
  | .string text => .ok (text.map fun char => .string [char])
  | other => .error (.noBlockList other.typeName)

/-- A read value, or its faults as a failure. -/
def checked : Checked Model → Except ComposeError Model
  | .valid value => .ok value
  | .invalid faults => .error (.invalid faults)

/-- What a raw block is taken for: an object is read as a block, anything else stays what
it is. -/
inductive Candidate where
  | parsed (block : Block)
  | foreign (value : Value)
  deriving Repr

namespace Candidate

/-- Takes a raw block for what it is. -/
def read : Value → Except ComposeError Candidate
  | .object members => (checked (Block.read (.object members))).map .parsed
  | value => .ok (.foreign value)

/-- The type of a block; nothing else has one. -/
def type? : Candidate → Option BlockType
  | .parsed block => some block.type
  | .foreign _ => none

/-- Sanitizes a block. Anything else is unsupported. -/
def sanitize (strictUrls : Bool) : Candidate → Except ComposeError Block
  | .parsed block => (block.sanitizeWith strictUrls).mapError .rejected
  | .foreign value => .error (.noBlock value.typeName)

end Candidate

/-- The code of the issues with unusable URLs. -/
def urlIssueCode : Text :=
  "BLOCK_SANITIZATION_FAILED"

/-- The sanitized blocks and the recorded issues so far. -/
structure Progress where
  blocks : List Block
  issues : List Issue
  deriving Repr, DecidableEq

namespace Progress

/-- Nothing is sanitized yet. -/
def start : Progress :=
  ⟨[], []⟩

/-- Adds a sanitized block. -/
def keep (progress : Progress) (block : Block) : Progress :=
  { progress with blocks := progress.blocks ++ [block] }

/-- Records that a candidate was refused. -/
def note (progress : Progress) (candidate : Candidate) (rejection : UrlRejection) : Progress :=
  let issue : Issue :=
    ⟨urlIssueCode, rejection.message, .error, some rejection.blockId, candidate.type?⟩
  { progress with issues := progress.issues ++ [issue] }

/-- Reads and sanitizes one more raw block. If it is refused for its URL, that is recorded and
the block is sanitized once more with the URL left alone; any other failure is passed on. -/
def next (progress : Progress) (raw : Value) : Except ComposeError Progress := do
  let candidate ← Candidate.read raw
  match candidate.sanitize true with
  | .ok sanitized => return progress.keep sanitized
  | .error (.rejected rejection) =>
      let kept ← candidate.sanitize false
      return (progress.note candidate rejection).keep kept
  | .error failure => .error failure

end Progress

/-- Reads and sanitizes raw blocks in order. A block is read only once those before it are
sanitized. -/
def sanitizeBlocks (raw : List Value) : Except ComposeError Progress :=
  raw.foldlM Progress.next Progress.start

/-- The faults of personal data, under the name of their field. -/
def readPersonalData (data : Value) : Except ComposeError (Option (List (Text × Text))) :=
  checked
    ((optional Document.readPersonalData data).under (.member "personalization_variables"))

/-- A document from sanitized blocks, before it is validated. It has no name yet. -/
def assemble
    (settings : Settings)
    (template : TemplateType)
    (blocks : List Block)
    (personalData : Option (List (Text × Text))) : Document where
  id := []
  templateType := template
  version := 1
  blocks := blocks
  header := settings.header
  helpSection := some settings.helpSection
  complianceSection := some settings.complianceSection
  footer := settings.footer
  personalizationVariables := personalData
  isValid := none
  validationErrors := []

/-- A document with some issues recorded on it, and whether it is free of them. -/
def record (document : Document) (issues : List Issue) : Document :=
  { document with isValid := some issues.isEmpty, validationErrors := issues }

/-- Composes a document from the name of a template, raw blocks and personal data. The
first fault decides: the template, then the blocks in order, then the data. -/
def compose
    (settings : Settings)
    (templateName blocks data : Value) : Except ComposeError Document := do
  let template ← (Template.find templateName).mapError .template
  let raw ← rawBlocks blocks
  let progress ← sanitizeBlocks raw
  let personalData ← readPersonalData data
  let document := assemble settings template progress.blocks personalData
  return record document
    (progress.issues ++ document.validate (Template.rules template) false)

/-- The issues recorded for unusable URLs. -/
def urlIssues (document : Document) : List Issue :=
  document.validationErrors.filter fun issue => issue.code = urlIssueCode

end EmailComposer.Composition
