import Mathlib.Data.List.Nodup
import EmailComposer.Block.Schema
import EmailComposer.Proofs.Schema.Spelling

namespace EmailComposer

/-!
# Dumped blocks are read back

A dump has a field for every value of a block, and reading takes each value back as it
is. The names of the fields are told apart in either spelling, so it does not matter
which one a dump or any other object uses.
-/

open EmailComposer.Text
open EmailComposer.Json
open EmailComposer.Schema

/-! ## Values -/

section Values

theorem text_string
    (value : Text) :
    (text (.string value)).Gives value :=
  rfl

theorem optional_ofText?
    (value : Option Text) :
    (optional text (.ofText? value)).Gives value := by
  cases value <;> rfl

theorem optional_ofInt?
    (value : Option Int) :
    (optional integer (.ofInt? value)).Gives value := by
  cases value <;> rfl

theorem optional_floatValue?
    (value : Option Binary64) :
    (optional float (floatValue? value)).Gives value := by
  cases value <;> rfl

theorem optional_booleanValue?
    (value : Option Bool) :
    (optional boolean (booleanValue? value)).Gives value := by
  cases value <;> rfl

theorem optional_alignValue?
    (value : Option TextAlign) :
    (optional (choice TextAlign.options) (alignValue? value)).Gives value := by
  cases value with
  | none => rfl
  | some align => cases align <;> rfl

theorem choice_levelName
    (level : HeadingLevel) :
    (choice HeadingLevel.options (.string level.name)).Gives level := by
  cases level <;> rfl

end Values

/-! ## Fields -/

section Fields

open Schema.Record

theorem TitleBlock.read_dump
    (block : TitleBlock) :
    (TitleBlock.read ⟨block.dump⟩).Gives block :=
  (required_gives (text_string block.id)).map TitleBlock.mk
    |>.seq (required_gives (text_string block.content))
    |>.seq (withDefault_gives (choice_levelName block.level))
    |>.seq (maybe_gives (optional_ofText? block.color))
    |>.seq (maybe_gives (optional_ofInt? block.paddingBottom))

theorem ParagraphBlock.read_dump
    (block : ParagraphBlock) :
    (ParagraphBlock.read ⟨block.dump⟩).Gives block :=
  (required_gives (text_string block.id)).map ParagraphBlock.mk
    |>.seq (required_gives (text_string block.content))
    |>.seq (maybe_gives (optional_ofText? block.color))
    |>.seq (maybe_gives (optional_floatValue? block.lineHeight))
    |>.seq (maybe_gives (optional_ofInt? block.paddingBottom))
    |>.seq (maybe_gives (optional_alignValue? block.textAlign))

theorem ImageBlock.read_dump
    (block : ImageBlock) :
    (ImageBlock.read ⟨block.dump⟩).Gives block :=
  (required_gives (text_string block.id)).map ImageBlock.mk
    |>.seq (required_gives (text_string block.src))
    |>.seq (required_gives (text_string block.alt))
    |>.seq (maybe_gives (optional_ofInt? block.width))
    |>.seq (maybe_gives (optional_ofInt? block.height))
    |>.seq (maybe_gives (optional_ofInt? block.maxWidth))
    |>.seq (maybe_gives (optional_ofInt? block.borderRadius))
    |>.seq (maybe_gives (optional_ofInt? block.paddingBottom))

theorem ButtonBlock.read_dump
    (block : ButtonBlock) :
    (ButtonBlock.read ⟨block.dump⟩).Gives block :=
  (required_gives (text_string block.id)).map ButtonBlock.mk
    |>.seq (required_gives (text_string block.label))
    |>.seq (required_gives (text_string block.href))
    |>.seq (maybe_gives (optional_ofText? block.backgroundColor))
    |>.seq (maybe_gives (optional_ofText? block.textColor))
    |>.seq (maybe_gives (optional_ofText? block.padding))
    |>.seq (maybe_gives (optional_ofInt? block.borderRadius))
    |>.seq (maybe_gives (optional_ofInt? block.marginTop))
    |>.seq (maybe_gives (optional_ofInt? block.paddingBottom))
    |>.seq (maybe_gives (optional_alignValue? block.align))

theorem DividerBlock.read_dump
    (block : DividerBlock) :
    (DividerBlock.read ⟨block.dump⟩).Gives block :=
  (required_gives (text_string block.id)).map DividerBlock.mk
    |>.seq (maybe_gives (optional_ofText? block.color))
    |>.seq (maybe_gives (optional_ofInt? block.height))
    |>.seq (maybe_gives (optional_ofInt? block.margin))

theorem HighlightBoxBlock.read_dump
    (block : HighlightBoxBlock) :
    (HighlightBoxBlock.read ⟨block.dump⟩).Gives block :=
  (required_gives (text_string block.id)).map HighlightBoxBlock.mk
    |>.seq (required_gives (text_string block.content))
    |>.seq (required_gives (text_string block.backgroundColor))
    |>.seq (maybe_gives (optional_ofText? block.borderColor))
    |>.seq (maybe_gives (optional_booleanValue? block.borderLeft))
    |>.seq (maybe_gives (optional_ofText? block.padding))
    |>.seq (maybe_gives (optional_ofInt? block.paddingBottom))
    |>.seq (maybe_gives (optional_ofInt? block.borderRadius))

end Fields

namespace Block

/-- A block is read back from its fields. -/
theorem readFields_fields
    (block : Block) :
    (readFields block.type ⟨block.fields⟩).Gives block := by
  cases block with
  | title block => exact block.read_dump.map Block.title
  | paragraph block => exact block.read_dump.map Block.paragraph
  | image block => exact block.read_dump.map Block.image
  | button block => exact block.read_dump.map Block.button
  | divider block => exact block.read_dump.map Block.divider
  | highlightBox block => exact block.read_dump.map Block.highlightBox

/-! ## Names -/

/-- The names of the fields of all types of blocks. -/
def fieldNames : List Text :=
  ["type", "id", "content", "level", "color", "padding_bottom", "line_height", "text_align",
    "src", "alt", "width", "height", "max_width", "border_radius", "label", "href",
    "background_color", "text_color", "padding", "margin_top", "align", "margin",
    "border_color", "border_left"]

/-- Run together, the names of fields are still different. -/
theorem nodup_camel_fieldNames :
    (fieldNames.map Spelling.camel.apply).Nodup := by
  decide

/-- The fields of a block have these names. -/
theorem mem_fieldNames
    (block : Block) :
    ∀ member ∈ block.fields, member.1 ∈ fieldNames := by
  cases block <;>
    simp only [fields, TitleBlock.dump, ParagraphBlock.dump, ImageBlock.dump, ButtonBlock.dump,
      DividerBlock.dump, HighlightBoxBlock.dump, List.forall_mem_cons] <;>
    decide

theorem keepsApart_fields
    (block : Block) :
    KeepsApart fieldNames block.fields :=
  fun member isMember _ isName same =>
    List.inj_on_of_nodup_map nodup_camel_fieldNames (mem_fieldNames block member isMember) isName
      same

/-- What a block is read as depends on the values under these names only. -/
theorem readFields_alike
    {first second : Record}
    (sameRaw : ∀ name ∈ fieldNames, first.find? name = second.find? name)
    (type : BlockType) :
    (readFields type first).Alike (readFields type second) := by
  simp only [fieldNames, List.forall_mem_cons] at sameRaw
  cases type <;> refine Checked.Alike.map ?_ _
  -- What is left is a chain of fields for each type, read in one of three ways.
  all_goals
    repeat' first
      | exact Record.required_alike (by simp only [sameRaw])
      | exact Record.withDefault_alike (by simp only [sameRaw])
      | exact Record.maybe_alike (by simp only [sameRaw])
      | refine Checked.Alike.map ?_ _
      | refine Checked.Alike.seq ?_ ?_

section Respelled

variable {named : Members} (keepsApart : KeepsApart fieldNames named)

include keepsApart

theorem sameRaw_respell
    (first second : Text → Spelling) :
    ∀ name ∈ fieldNames,
      Record.find? ⟨respell first named⟩ name = Record.find? ⟨respell second named⟩ name := by
  intro name isName
  rw [find?_respell keepsApart first isName, find?_respell keepsApart second isName]

theorem get?_type_respell
    (spelling : Text → Spelling) :
    (respell spelling named).get? "type" = named.get? "type" := by
  have found := get?_respell keepsApart spelling
    (show ("type" : Text) ∈ fieldNames by decide) .snake
  have isSpelled : (spelling "type").apply "type" = Spelling.snake.apply "type" := by
    cases spelling "type" <;> rfl
  rwa [if_pos isSpelled] at found

/-- An object is read as the same block in any spellings of its keys. -/
theorem value?_read_respell
    (first second : Text → Spelling) :
    (Block.read (.object (respell first named))).value? =
      (Block.read (.object (respell second named))).value? := by
  rw [Block.read, value?_tagged, value?_tagged, get?_type_respell keepsApart,
    get?_type_respell keepsApart]
  cases named.get? "type" with
  | none => rfl
  | some tag =>
      cases tag with
      | string name =>
          refine Option.bind_congr fun entry isEntry => ?_
          obtain ⟨type, _, rfl⟩ := List.mem_map.mp (List.mem_of_find?_eq_some isEntry)
          exact readFields_alike (sameRaw_respell keepsApart first second) type
      | _ => rfl

end Respelled

/-- A dump is read back. -/
theorem read_dump
    (block : Block)
    (spelling : Spelling) :
    Block.read (block.dump spelling) = .valid block := by
  have isRespelled : ∀ spelling,
      block.dump spelling = .object (respell (fun _ => spelling) block.fields) :=
    fun _ => rfl
  have snakeRead : Block.read (block.dump .snake) = .valid block := by
    have isTagged : Block.read (block.dump .snake) =
        (readFields block.type ⟨block.fields⟩).under (.member block.type.name) := by
      cases block <;> rfl
    rw [isTagged, under_eq_valid_iff]
    exact readFields_fields block
  rw [← Checked.value?_eq_some_iff] at snakeRead ⊢
  rw [← snakeRead, isRespelled, isRespelled]
  exact value?_read_respell (keepsApart_fields block) _ _

/--
A dumped block is read back as it is, whichever spelling the names of its fields have, so
reading, dumping and reading again changes nothing. An object is read as the same block in
any spellings of its keys, or refused in all of them, unless a key is spelled like a field
that has another name.
-/
theorem dump_reads_back :
    (∀ (block : Block) (spelling : Spelling),
        Block.read (block.dump spelling) = .valid block) ∧
      (∀ (raw : Value) (block : Block),
          Block.read raw = .valid block →
          ∀ spelling : Spelling, Block.read (block.dump spelling) = Block.read raw) ∧
        ∀ named : Members,
          KeepsApart fieldNames named →
          ∀ (spelling : Text → Spelling) (block : Block),
            Block.read (.object (respell spelling named)) = .valid block ↔
              Block.read (dumpMembers .snake named) = .valid block := by
  refine ⟨read_dump, ?_, ?_⟩
  · intro raw block isRead spelling
    rw [read_dump, isRead]
  · intro named keepsApart spelling block
    have sameValue := value?_read_respell keepsApart spelling fun _ => .snake
    rw [← Checked.value?_eq_some_iff, ← Checked.value?_eq_some_iff, sameValue]
    rfl

/-- The fields of a box whose values are written as text, one of them left out. -/
def writtenBox : Members :=
  [("type", .string "highlight-box"), ("id", .string "1"), ("content", .string "a"),
    ("background_color", .string "#fff"), ("border_left", .string "yes"),
    ("padding_bottom", .string "8")]

/-- That box. -/
def readBox : Block :=
  .highlightBox ⟨"1", "a", "#fff", none, some true, none, some 8, none⟩

/-- It is read from either spelling and stays the same when it is dumped and read again. -/
theorem dump_reads_back_of_writtenBox :
    KeepsApart fieldNames writtenBox ∧
      Block.read (dumpMembers .snake writtenBox) = .valid readBox ∧
        Block.read (dumpMembers .camel writtenBox) = .valid readBox ∧
          Block.read (readBox.dump .camel) = Block.read (dumpMembers .snake writtenBox) := by
  have keepsApart : KeepsApart fieldNames writtenBox := by
    decide
  have isRead : Block.read (dumpMembers .snake writtenBox) = .valid readBox := rfl
  refine ⟨keepsApart, isRead, ?_, ?_⟩
  · exact (dump_reads_back.2.2 writtenBox keepsApart (fun _ => .camel) readBox).mpr isRead
  · exact dump_reads_back.2.1 _ readBox isRead .camel

end Block

end EmailComposer
