import EmailComposer.Proofs.Block.Sanitize
import EmailComposer.Proofs.Composition.UrlIssue

namespace EmailComposer

/-!
# The body of a composed document

Every raw block becomes one block of the document, in its place: what strict sanitizing gives,
and lenient sanitizing where the strict attempt is refused, is the same map over the blocks. Only
the text that is shown to a reader is replaced; a URL that is refused stays as it is and leaves an
issue. These issues stand in front of those of the validator, which uses none of their code.
-/

open EmailComposer.Text
open EmailComposer.Json
open EmailComposer.Markup
open EmailComposer.Schema
open EmailComposer.Validation

namespace BlockType

/-- The field that holds the text of a type of blocks. -/
def textField? : BlockType → Option Text
  | .title => some "content"
  | .paragraph => some "content"
  | .highlightBox => some "content"
  | .button => some "label"
  | .image => some "alt"
  | .divider => none

/-- The text of a type of blocks, sanitized. -/
def cleanText : BlockType → Text → Text
  | .button => plainField
  | .image => plainField
  | type => type.sanitizeText

/-- A field of a type of blocks, with its text sanitized if it is the one that holds it. -/
def cleanField (type : BlockType) (field : Text × Value) : Text × Value :=
  if type.textField? = some field.1 then
    match field.2 with
    | .string text => (field.1, .string (type.cleanText text))
    | other => (field.1, other)
  else
    field

end BlockType

namespace Block

/-- Strict sanitizing refuses the block because of its URL. -/
def isRefused (block : Block) : Bool :=
  match block.sanitizeWith true with
  | .ok _ => false
  | .error _ => true

/-- A block that is refused has an unusable URL, and the other way round. -/
theorem isRefused_eq
    (block : Block) :
    block.isRefused = block.hasUnusableUrl := by
  unfold isRefused
  cases unusable : block.hasUnusableUrl with
  | false => rw [sanitizeWith_of_usable true unusable]
  | true =>
      obtain ⟨rejection, refused, _⟩ := exists_sanitizeWith_true_of_unusable unusable
      rw [refused]

/-- Sanitizing a block changes no field but the one that holds its text. -/
theorem fields_sanitizeContent
    (block : Block) :
    block.sanitizeContent.fields = block.fields.map block.type.cleanField := by
  cases block <;> rfl

end Block

namespace Composition

/-- What becomes of a block: lenient sanitizing gives it, and so does strict sanitizing if it does
not refuse the block; only the field with the text changes. -/
structure IsKeptAs (block kept : Block) : Prop where
  lenient : block.sanitizeWith false = .ok kept
  strict : ∀ sanitized, block.sanitizeWith true = .ok sanitized → kept = sanitized
  fields : kept.fields = block.fields.map block.type.cleanField

/-- The issue that a block leaves if strict sanitizing refuses it. -/
def IsRefusal (block : Block) (issue : Issue) : Prop :=
  ∃ rejection,
    block.sanitizeWith true = .error rejection ∧
      issue =
        ⟨"BLOCK_SANITIZATION_FAILED", rejection.message, .error, some block.id, some block.type⟩

theorem isKeptAs_sanitizeContent
    (block : Block) :
    IsKeptAs block block.sanitizeContent where
  lenient := block.sanitizeWith_false
  strict _ isSanitized := Block.eq_sanitizeContent_of_sanitize isSanitized
  fields := block.fields_sanitizeContent

/-- The issue with the URL of a block is the one that its refusal leaves. -/
theorem isRefusal_urlIssue
    {block : Block}
    (unusable : block.hasUnusableUrl = true) :
    IsRefusal block (urlIssue block) := by
  obtain ⟨rejection, refused, _, complains⟩ := Block.exists_sanitizeWith_true_of_unusable unusable
  refine ⟨rejection, refused, ?_⟩
  rw [complains]
  rfl

/-- Blocks that are refused leave one issue each, in order. -/
theorem forall₂_refusals
    (blocks : List Block) :
    List.Forall₂ IsRefusal (blocks.filter Block.isRefused)
      ((blocks.filter Block.hasUnusableUrl).map urlIssue) := by
  have same : Block.isRefused = Block.hasUnusableUrl := funext Block.isRefused_eq
  rw [same, List.forall₂_map_right_iff]
  refine List.forall₂_same.mpr fun block member => ?_
  exact isRefusal_urlIssue (List.of_mem_filter member)

/-- What the validator finds does not depend on what is recorded on a document. -/
theorem validate_record
    (document : Document)
    (issues : List Issue)
    (template : TemplateType) :
    (record document issues).validate (Template.rules template) false =
      document.validate (Template.rules template) false := by
  have same := findings_congr (allowReordering_rules template)
    (⟨rfl, rfl, rfl⟩ : LooksAlike (record document issues) document) false false
  simp only [Document.validate, same]

/--
A composed document keeps its raw blocks one by one: each is read, and only its text is
sanitized, whether or not its URL is refused. The document records an issue for every refused
block, in order, and behind them what lenient validation finds; the URL issues are exactly the
first part, and the document is valid if nothing is recorded.
-/
theorem compose_keeps_body
    {settings : Settings}
    {template : TemplateType}
    {raw : List Value}
    {data : Value}
    {document : Document}
    (composed :
      compose settings (.string template.name) (.array raw) data = .ok document) :
    ∃ read refusals,
      List.Forall₂ (fun source block => Block.read source = .valid block) raw read ∧
        List.Forall₂ IsKeptAs read document.blocks ∧
          List.Forall₂ IsRefusal (read.filter Block.isRefused) refusals ∧
            document.validationErrors =
                refusals ++ document.validate (Template.rules template) false ∧
              urlIssues document = refusals ∧
                document.isValid = some document.validationErrors.isEmpty := by
  obtain ⟨found, others, read, personalData, isTemplate, areOthers, areRead, _, isDocument⟩ :=
    compose_eq_ok_iff.mp composed
  cases areOthers
  obtain rfl : found = template :=
    Except.ok.inj (isTemplate.symm.trans (find_string_eq_ok_iff.mpr rfl))
  obtain ⟨areBlocks, areIssues⟩ := urlIssues_of_compose rfl areRead composed
  refine ⟨read, (read.filter Block.hasUnusableUrl).map urlIssue, ?_, ?_, forall₂_refusals read, ?_,
    areIssues, isValid_of_compose composed⟩
  · exact (mapM_eq_ok_iff.mp areRead).imp fun _ _ => readBlock_eq_ok_iff.mp
  · rw [areBlocks, List.forall₂_map_right_iff]
    exact List.forall₂_same.mpr fun block _ => isKeptAs_sanitizeContent block
  · rw [isDocument]
    dsimp only
    rw [validate_record]
    rfl

/-- Blocks of which the second and the last are refused for their URLs. -/
def refusedBlocks : List Value :=
  [.object [("type", .string "paragraph"), ("id", .string "1"), ("content", .string "<p>a</p>")],
    .object [("type", .string "button"), ("id", .string "2"), ("label", .string "<b>b</b>"),
      ("href", .string "javascript:alert(1)")],
    .object [("type", .string "divider"), ("id", .string "3"), ("height", .integer 2)],
    .object [("type", .string "image"), ("id", .string "2"), ("alt", .string "d > e"),
      ("src", .string "http://example.com/f.png")]]

/-- All of them are kept, and two issues stand in front of those of the validator. -/
theorem compose_keeps_body_of_refusedBlocks :
    ∃ settings document,
      compose settings (.string TemplateType.newsletter.name) (.array refusedBlocks) .null =
          .ok document ∧
        document.blocks.length = 4 ∧ (urlIssues document).length = 2 ∧
          ∃ read refusals,
            List.Forall₂ (fun source block => Block.read source = .valid block)
                refusedBlocks read ∧
              List.Forall₂ IsKeptAs read document.blocks ∧
                List.Forall₂ IsRefusal (read.filter Block.isRefused) refusals ∧
                  document.validationErrors =
                      refusals ++ document.validate (Template.rules .newsletter) false ∧
                    urlIssues document = refusals ∧
                      document.isValid = some document.validationErrors.isEmpty := by
  have succeeds : ((Settings.read ⟨[]⟩).toOption.bind fun settings =>
      (compose settings (.string TemplateType.newsletter.name) (.array refusedBlocks)
        .null).toOption).map
          (fun document => (document.blocks.length, (urlIssues document).length)) =
      some (4, 2) := by
    decide +kernel
  obtain ⟨document, isComposed, lengths⟩ := Option.map_eq_some_iff.mp succeeds
  obtain ⟨settings, _, isOutcome⟩ := Option.bind_eq_some_iff.mp isComposed
  obtain ⟨fourBlocks, twoIssues⟩ := Prod.mk.inj lengths
  have composed := toOption_eq_some_iff.mp isOutcome
  exact ⟨settings, document, composed, fourBlocks, twoIssues, compose_keeps_body composed⟩

end Composition

end EmailComposer
