import EmailComposer.Block.Schema

namespace EmailComposer

/-!
# Issues

An issue is one finding about a document: a code, a wording, how severe it is and,
where it is about a block, which one.
-/

open EmailComposer.Json
open EmailComposer.Schema

/-- How severe an issue is. -/
inductive Severity where
  | error
  | warning
  deriving Repr, DecidableEq

namespace Severity

/-- The name of a severity. -/
def name : Severity → Text
  | .error => "error"
  | .warning => "warning"

/-- Severities by name. -/
def options : List (Text × Severity) :=
  [("error", .error), ("warning", .warning)]

end Severity

/-- One finding about a document. -/
structure Issue where
  code : Text
  message : Text
  severity : Severity
  blockId : Option Text
  blockType : Option BlockType
  deriving Repr, DecidableEq

namespace Issue

/-- An issue with a block. -/
def ofBlock (code message : Text) (severity : Severity) (block : Block) : Issue :=
  ⟨code, message, severity, some block.id, some block.type⟩

/-- An issue with the blocks of a type. -/
def ofType (code message : Text) (severity : Severity) (type : BlockType) : Issue :=
  ⟨code, message, severity, none, some type⟩

/-- An issue with the document as a whole. -/
def ofDocument (code message : Text) : Issue :=
  ⟨code, message, .error, none, none⟩

/-- The issue is an error. -/
def isError (issue : Issue) : Bool :=
  issue.severity = .error

/-- The issue is a warning. -/
def isWarning (issue : Issue) : Bool :=
  issue.severity = .warning

/-- Reads an issue. -/
def read : Reader Issue :=
  model "ValidationIssue" fun record =>
    Issue.mk <$> record.required "code" text
      <*> record.required "message" text
      <*> record.required "severity" (choice Severity.options)
      <*> record.maybe "block_id" text
      <*> record.maybe "block_type" (choice BlockType.options)

/-- An issue as an object. -/
def dump (issue : Issue) : Value :=
  dumpMembers .camel
    [("code", .string issue.code), ("message", .string issue.message),
      ("severity", .string issue.severity.name), ("block_id", .ofText? issue.blockId),
      ("block_type", .ofText? (issue.blockType.map BlockType.name))]

/-- The objects of several issues. -/
def dumpAll (issues : List Issue) : Value :=
  .array (issues.map dump)

end Issue

end EmailComposer
