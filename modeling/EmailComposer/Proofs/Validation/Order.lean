import Mathlib.Data.List.Infix
import EmailComposer.Proofs.Validation.Strictness

namespace EmailComposer

/-!
# The required order

Where an order is enforced, every block has a number: the first place of the order that
stands for any block or for its type, or minus one. A block is reported if its number is
smaller than that of the nearest earlier block with a place, and nothing is reported exactly
if the numbers never fall. Only first places count, so an order that comes back to a type
cannot be kept, not even by the blocks it lists.
-/

open EmailComposer.Text

namespace Validation

/-- A place as a number; no place is minus one. -/
def numberOf : Option Nat → Int
  | some place => place
  | none => -1

/-- The number of a block: the first place that stands for any block or for its type. -/
def placeNumber (order : List OrderEntry) (block : Block) : Int :=
  numberOf (order.findIdx? fun entry => entry = .any ∨ entry = .block block.type)

/-- Of the blocks before it, the nearest one that has a place has a later one. -/
def ComesTooLate (order : List OrderEntry) (earlier : List Block) (block : Block) : Prop :=
  ∃ before previous between,
    earlier = before ++ previous :: between ∧
      0 ≤ placeNumber order previous ∧
        (∀ other ∈ between, placeNumber order other = -1) ∧
          placeNumber order block < placeNumber order previous

/-- The issue with a block that comes too late. -/
def orderIssue (order : List OrderEntry) (strict : Bool) (block : Block) : Issue where
  code := orderCode
  message :=
    "Block \"" ++ block.type.name ++ "\" appears out of order. Expected order: " ++
      joinWith " → " (order.map OrderEntry.name)
  severity := if strict then .error else .warning
  blockId := some block.id
  blockType := some block.type

section Numbers

theorem numberOf_nonneg_iff
    {place : Option Nat} :
    0 ≤ numberOf place ↔ ∃ index, place = some index := by
  cases place <;> simp [numberOf]

theorem numberOf_eq_neg_one_iff
    {place : Option Nat} :
    numberOf place = -1 ↔ place = none := by
  cases place <;> simp [numberOf]

theorem neg_one_le_numberOf
    (place : Option Nat) :
    -1 ≤ numberOf place := by
  cases place with
  | none => exact Int.le_refl (-1)
  | some index =>
      dsimp only [numberOf]
      omega

/-- The check compares numbers. -/
theorem isOutOfOrder_iff
    {place last : Option Nat} :
    isOutOfOrder place last = true ↔ numberOf place < numberOf last := by
  cases last with
  | none => exact iff_of_false Bool.false_ne_true (Int.not_lt.mpr (neg_one_le_numberOf place))
  | some index =>
      cases place with
      | none =>
          refine iff_of_true rfl ?_
          dsimp only [numberOf]
          omega
      | some other => simp [isOutOfOrder, numberOf]

/-- A block that comes in time brings its number along. -/
theorem numberOf_orElse
    {place last : Option Nat}
    (inTime : numberOf last ≤ numberOf place) :
    numberOf (place <|> last) = numberOf place := by
  cases place with
  | some index => rfl
  | none =>
      have noLast : last = none :=
        numberOf_eq_neg_one_iff.mp (Int.le_antisymm inTime (neg_one_le_numberOf last))
      rw [noLast]
      rfl

variable (order : List OrderEntry)

theorem placeNumber_eq
    (block : Block) :
    placeNumber order block = numberOf (position? order block.type) := by
  have admits : (fun entry : OrderEntry => decide (entry = .any ∨ entry = .block block.type)) =
      fun entry => entry.admits block.type := by
    funext entry
    cases entry <;> simp [OrderEntry.admits]
  rw [placeNumber, position?, admits]

end Numbers

section Run

variable (order : List OrderEntry)

/-- The place that the check keeps in mind: that of the nearest block with one. -/
def lastPlace? (earlier : List Block) : Option Nat :=
  earlier.reverse.findSome? fun block => position? order block.type

theorem lastPlace?_nil : lastPlace? order [] = none := rfl

theorem lastPlace?_concat
    (earlier : List Block)
    (block : Block) :
    lastPlace? order (earlier ++ [block]) =
      (position? order block.type <|> lastPlace? order earlier) := by
  rw [lastPlace?, List.reverse_concat, List.findSome?_cons, ← lastPlace?]
  cases position? order block.type <;> rfl

/-- It is the place of an earlier block, and the blocks behind that one have none. -/
theorem lastPlace?_eq_some_iff
    {earlier : List Block}
    {place : Nat} :
    lastPlace? order earlier = some place ↔
      ∃ before previous between,
        earlier = before ++ previous :: between ∧
          position? order previous.type = some place ∧
            ∀ other ∈ between, position? order other.type = none := by
  rw [lastPlace?, List.findSome?_eq_some_iff]
  constructor
  · rintro ⟨between, previous, before, shape, isPlace, missing⟩
    refine ⟨before.reverse, previous, between.reverse, ?_, isPlace, by simpa using missing⟩
    rw [← List.reverse_reverse earlier, shape]
    simp
  · rintro ⟨before, previous, between, rfl, isPlace, missing⟩
    exact ⟨between.reverse, previous, before.reverse, by simp, isPlace, by simpa using missing⟩

/-- So the check finds out whether a block comes too late. -/
theorem isOutOfOrder_lastPlace?_iff
    {earlier : List Block}
    {block : Block} :
    isOutOfOrder (position? order block.type) (lastPlace? order earlier) = true ↔
      ComesTooLate order earlier block := by
  simp only [isOutOfOrder_iff, ComesTooLate, placeNumber_eq, numberOf_nonneg_iff,
    numberOf_eq_neg_one_iff]
  constructor
  · intro isLate
    obtain ⟨place, isLast⟩ := numberOf_nonneg_iff.mp
      (Int.lt_of_le_of_lt (neg_one_le_numberOf (position? order block.type)) isLate)
    obtain ⟨before, previous, between, shape, isPlace, missing⟩ :=
      (lastPlace?_eq_some_iff order).mp isLast
    refine ⟨before, previous, between, shape, ⟨place, isPlace⟩, missing, ?_⟩
    rwa [isPlace, ← isLast]
  · rintro ⟨before, previous, between, shape, ⟨place, isPlace⟩, missing, isLate⟩
    have isLast : lastPlace? order earlier = some place :=
      (lastPlace?_eq_some_iff order).mpr ⟨before, previous, between, shape, isPlace, missing⟩
    rwa [isLast, ← isPlace]

instance (earlier : List Block) (block : Block) : Decidable (ComesTooLate order earlier block) :=
  decidable_of_iff _ (isOutOfOrder_lastPlace?_iff order)

/-- The run of the check reports the blocks that come too late, each where it stands. -/
theorem outOfOrderFrom_eq
    (earlier rest : List Block) :
    outOfOrderFrom order (lastPlace? order earlier) rest =
      ((rest.zipIdx earlier.length).filter fun entry =>
        ComesTooLate order ((earlier ++ rest).take entry.2) entry.1).map Prod.fst := by
  induction rest generalizing earlier with
  | nil => rfl
  | cons block rest inductionHypothesis =>
      have later := inductionHypothesis (earlier ++ [block])
      rw [lastPlace?_concat, List.length_append, List.length_singleton, List.append_assoc,
        List.singleton_append] at later
      rw [outOfOrderFrom, later, List.zipIdx_cons]
      by_cases isLate : ComesTooLate order earlier block
      · rw [if_pos ((isOutOfOrder_lastPlace?_iff order).mpr isLate),
          List.filter_cons_of_pos (by simpa using isLate), List.map_cons]
      · rw [if_neg (mt (isOutOfOrder_lastPlace?_iff order).mp isLate),
          List.filter_cons_of_neg (by simpa using isLate)]

/-- A run reports nothing exactly if the numbers never fall, from the one in mind on. -/
theorem outOfOrderFrom_eq_nil_iff
    (last : Option Nat)
    (blocks : List Block) :
    outOfOrderFrom order last blocks = [] ↔
      (numberOf last :: blocks.map (placeNumber order)).IsChain (· ≤ ·) := by
  induction blocks generalizing last with
  | nil => simp [outOfOrderFrom]
  | cons block rest inductionHypothesis =>
      rw [outOfOrderFrom, List.map_cons, List.isChain_cons_cons, placeNumber_eq]
      by_cases isLate : isOutOfOrder (position? order block.type) last = true
      · have falls := isOutOfOrder_iff.mp isLate
        rw [if_pos isLate]
        simp [Int.not_le.mpr falls]
      · have inTime := Int.not_lt.mp (mt isOutOfOrder_iff.mpr isLate)
        rw [if_neg isLate, inductionHypothesis, numberOf_orElse inTime]
        exact (and_iff_right inTime).symm

/-- From the beginning on, the numbers are compared with each other only. -/
theorem outOfOrderFrom_none_eq_nil_iff
    (blocks : List Block) :
    outOfOrderFrom order none blocks = [] ↔
      (blocks.map (placeNumber order)).Pairwise (· ≤ ·) := by
  rw [outOfOrderFrom_eq_nil_iff, List.isChain_iff_pairwise, List.pairwise_cons,
    and_iff_right]
  rintro number member
  obtain ⟨block, _, rfl⟩ := List.mem_map.mp member
  rw [placeNumber_eq]
  exact neg_one_le_numberOf _

end Run

section Check

variable
  {rules : TemplateRules}
  {order : List OrderEntry}
  (fixed : rules.allowReordering = false)
  (required : rules.requireBlockOrder = some order)
  (document : Document)
  (strict : Bool)

include fixed required

/-- The check reports what its run finds; an empty order lets everything pass. -/
theorem checkOrder_eq_map
    (notEmpty : order ≠ []) :
    checkOrder ⟨rules, document, strict⟩ =
      (outOfOrderFrom order none document.blocks).map (orderIssue order strict) := by
  have enforced : enforcedOrder? rules = some order := by
    rw [enforcedOrder?, if_neg (by simp [fixed]), required]
  cases order with
  | nil => exact absurd rfl notEmpty
  | cons first others =>
      simp only [checkOrder, enforced]
      rfl

/--
What the check of the order decides: it reports, in the order of the blocks, each one whose
number is smaller than that of the nearest earlier block with a place. It reports nothing
exactly if the numbers never fall.
-/
theorem checkOrder_decides
    (notEmpty : order ≠ []) :
    checkOrder ⟨rules, document, strict⟩ =
        ((document.blocks.zipIdx.filter fun entry =>
            ComesTooLate order (document.blocks.take entry.2) entry.1).map fun entry =>
          orderIssue order strict entry.1) ∧
      (checkOrder ⟨rules, document, strict⟩ = [] ↔
        (document.blocks.map (placeNumber order)).Pairwise (· ≤ ·)) := by
  have reported := checkOrder_eq_map fixed required document strict notEmpty
  constructor
  · have found := outOfOrderFrom_eq order [] document.blocks
    rw [List.nil_append] at found
    rw [reported, ← lastPlace?_nil order, found, List.map_map]
    rfl
  · rw [reported, List.map_eq_nil_iff, outOfOrderFrom_none_eq_nil_iff]

end Check

/-- A document of given blocks, with all fixed sections. -/
def launchOf (blocks : List Block) : Document where
  id := "1"
  templateType := .openFund
  version := 1
  blocks := blocks
  header := ⟨[], none, false⟩
  helpSection := some ⟨[], [], [], none⟩
  complianceSection := some ⟨[], none, none⟩
  footer := ⟨[], [], [], []⟩
  personalizationVariables := none
  isValid := none
  validationErrors := []

/-- The rules of a fund launch, with its order enforced. -/
def launchRules : TemplateRules :=
  { Template.openFund with allowReordering := false }

/-- The order of a fund launch. -/
def launchOrder : List BlockType :=
  [.title, .paragraph, .image, .paragraph, .button, .highlightBox]

/-- An image comes before the title, and dividers have no place in the order. -/
def shuffledBlocks : List Block :=
  [.divider ⟨"a", none, none, none⟩,
    .image ⟨"b", "https://x", "Chart", none, none, none, none, none⟩,
    .title ⟨"c", "Launch", .h2, none, none⟩,
    .paragraph ⟨"d", "The fund opens.", none, none, none, none⟩,
    .divider ⟨"e", none, none, none⟩,
    .button ⟨"f", "Go", "https://x", none, none, none, none, none, none, none⟩]

/-- The title is reported because of the image and the second divider because of the paragraph.
The paragraph belongs before the image too, but the title is nearer. -/
theorem checkOrder_decides_of_shuffledBlocks :
    launchRules.allowReordering = false ∧
      launchRules.requireBlockOrder = some (launchOrder.map .block) ∧
        launchOrder.map OrderEntry.block ≠ [] ∧
          shuffledBlocks.map (placeNumber (launchOrder.map .block)) = [-1, 2, 0, 1, -1, 4] ∧
            (checkOrder ⟨launchRules, launchOf shuffledBlocks, true⟩).map Issue.blockId =
              [some "c".toList, some "e".toList] ∧
              ¬ (shuffledBlocks.map (placeNumber (launchOrder.map .block))).Pairwise
                (· ≤ ·) := by
  have fixed : launchRules.allowReordering = false := rfl
  have required : launchRules.requireBlockOrder = some (launchOrder.map .block) := rfl
  have notEmpty : launchOrder.map OrderEntry.block ≠ [] := by decide
  obtain ⟨reported, nothing⟩ :=
    checkOrder_decides fixed required (launchOf shuffledBlocks) true notEmpty
  have areLate : (checkOrder ⟨launchRules, launchOf shuffledBlocks, true⟩).map Issue.blockId =
      [some "c".toList, some "e".toList] := by
    rw [reported]
    decide
  refine ⟨fixed, required, notEmpty, by decide, areLate, fun inOrder => ?_⟩
  rw [nothing.mpr inOrder] at areLate
  cases areLate

section Layout

/-- No type comes back once another one has followed it. -/
def StandTogether (types : List BlockType) : Prop :=
  ∀ first other, List.Sublist [first, other, first] types → other = first

variable {types : List BlockType}

/-- A type that is listed first but follows another one here comes back. -/
theorem comesBack_of_idxOf_lt
    {first other : BlockType}
    (follows : List.Sublist [other, first] types)
    (listedFirst : types.idxOf first < types.idxOf other) :
    List.Sublist [first, other, first] types := by
  have isListed : first ∈ types := follows.subset (by simp)
  have otherIsListed : other ∈ types := follows.subset (by simp)
  -- What stands before the first place of the other type holds the first type only.
  have inBeginning : first ∈ types.take (types.idxOf other) :=
    (List.mem_take_iff_idxOf_lt isListed).mpr listedFirst
  have otherBehind : other ∉ types.take (types.idxOf other) := fun member =>
    Nat.lt_irrefl _ ((List.mem_take_iff_idxOf_lt otherIsListed).mp member)
  rw [← List.take_append_drop (types.idxOf other) types] at follows ⊢
  obtain ⟨beginning, ending, shape, isBeginning, isEnding⟩ := List.sublist_append_iff.mp follows
  cases beginning with
  | nil =>
      rw [List.nil_append] at shape
      exact (List.singleton_sublist.mpr inBeginning).append (shape ▸ isEnding)
  | cons head tail =>
      obtain ⟨rfl, _⟩ := List.cons.inj shape
      exact absurd (isBeginning.subset (List.mem_cons_self ..)) otherBehind

/-- The first places never fall exactly if no type comes back. -/
theorem pairwise_idxOf_iff :
    (types.map fun type => types.idxOf type).Pairwise (· ≤ ·) ↔ StandTogether types := by
  rw [List.pairwise_map, List.pairwise_iff_forall_sublist]
  constructor
  · intro neverFall first other comesBack
    have forward : types.idxOf first ≤ types.idxOf other :=
      neverFall (List.Sublist.trans (by simp) comesBack)
    have backward : types.idxOf other ≤ types.idxOf first :=
      neverFall (List.Sublist.trans (by simp) comesBack)
    have isListed : other ∈ types := comesBack.subset (by simp)
    exact (List.idxOf_inj isListed).mp (Nat.le_antisymm backward forward)
  · intro standTogether other first follows
    by_contra falls
    have listedFirst := Nat.lt_of_not_le falls
    have same := standTogether first other (comesBack_of_idxOf_lt follows listedFirst)
    rw [same] at listedFirst
    exact Nat.lt_irrefl _ listedFirst

instance : Decidable (StandTogether types) :=
  decidable_of_iff _ pairwise_idxOf_iff

/-- In an order of types a listed block has the first place of its type. -/
theorem placeNumber_of_mem
    {block : Block}
    (isListed : block.type ∈ types) :
    placeNumber (types.map .block) block = types.idxOf block.type := by
  have sameTest : (fun entry : OrderEntry =>
        decide (entry = .any ∨ entry = .block block.type)) ∘ OrderEntry.block =
      fun type => type == block.type := by
    funext type
    simp [Bool.beq_eq_decide_eq]
  rw [placeNumber, List.findIdx?_map, sameTest,
    List.findIdx?_eq_some_of_exists (p := fun type => type == block.type)
      ⟨block.type, isListed, beq_self_eq_true _⟩]
  rfl

/-- Blocks that are the listed ones have numbers that never fall exactly if no type comes
back. -/
theorem pairwise_placeNumber_iff
    {blocks : List Block}
    (laidOut : blocks.map Block.type = types) :
    (blocks.map (placeNumber (types.map .block))).Pairwise (· ≤ ·) ↔ StandTogether types := by
  have numbers : blocks.map (placeNumber (types.map .block)) =
      (types.map fun type => types.idxOf type).map Nat.cast := by
    conv_rhs => rw [← laidOut, List.map_map, List.map_map, laidOut]
    refine List.map_congr_left fun block member => placeNumber_of_mem ?_
    exact laidOut ▸ List.mem_map_of_mem member
  rw [numbers, List.pairwise_map]
  simp only [Int.ofNat_le]
  exact pairwise_idxOf_iff

variable
  {rules : TemplateRules}
  {document : Document}

/-- No finding is about the order exactly if the check of the order reports nothing. -/
theorem forall_findings_code_ne_iff
    {strict : Bool} :
    (∀ issue ∈ document.findings rules strict, issue.code ≠ orderCode) ↔
      checkOrder ⟨rules, document, strict⟩ = [] := by
  constructor
  · intro notOrder
    refine List.eq_nil_iff_forall_not_mem.mpr fun issue isReported => ?_
    have isRule : (⟨"BLOCK_ORDER", checkOrder⟩ : Rule) ∈ allRules := by
      simp [allRules]
    have isOrder := List.mem_singleton.mp (carryOrderCode_checkOrder _ issue isReported)
    exact notOrder issue (List.mem_flatMap.mpr ⟨_, isRule, isReported⟩) isOrder
  · intro nothing issue isFound isOrder
    obtain ⟨rule, isRule, inRule⟩ := List.mem_flatMap.mp isFound
    rcases order_or_isSteady isRule with isCheck | steady
    · rw [isCheck, nothing] at inRule
      cases inRule
    · exact orderCode_not_mem_otherCodes (isOrder ▸ steady.codes _ issue inRule)

/-- Lenient validation says nothing about the order. -/
theorem code_ne_of_mem_validate_lenient
    {issue : Issue}
    (member : issue ∈ document.validate rules false) :
    issue.code ≠ orderCode := by
  rw [Document.validate_lenient] at member
  have isLasting := (List.mem_filter.mp member).2
  simpa [isLastingError] using (Bool.and_eq_true_iff.mp isLasting).2

/--
Blocks laid out exactly as an order of types asks are in order exactly if no type comes back
in it. Else the check reports some of them, which strict validation lists as errors.
-/
theorem laidOut_inOrder_iff
    (fixed : rules.allowReordering = false)
    (required : rules.requireBlockOrder = some (types.map .block))
    (notEmpty : types ≠ [])
    (laidOut : document.blocks.map Block.type = types) :
    (∀ strict, checkOrder ⟨rules, document, strict⟩ = [] ↔ StandTogether types) ∧
      ((∀ issue ∈ document.validate rules true, issue.code ≠ orderCode) ↔
        StandTogether types) ∧
        ∀ issue ∈ document.validate rules false, issue.code ≠ orderCode := by
  have reportsNothing : ∀ strict,
      checkOrder ⟨rules, document, strict⟩ = [] ↔ StandTogether types := by
    intro strict
    have isOrder : types.map OrderEntry.block ≠ [] := by simpa using notEmpty
    rw [checkOrder_eq_map fixed required document strict isOrder, List.map_eq_nil_iff,
      outOfOrderFrom_none_eq_nil_iff, pairwise_placeNumber_iff laidOut]
  refine ⟨reportsNothing, ?_, fun issue => code_ne_of_mem_validate_lenient⟩
  rw [← reportsNothing true]
  exact forall_findings_code_ne_iff

/-- An order in which the paragraphs follow one another. -/
def plainOrder : List BlockType :=
  [.title, .paragraph, .paragraph, .button]

/-- The rules of a fund launch, with that order enforced. -/
def plainRules : TemplateRules :=
  { launchRules with requireBlockOrder := some (plainOrder.map .block) }

/-- Blocks laid out in that order. -/
def plainBlocks : List Block :=
  [.title ⟨"a", "Launch", .h2, none, none⟩,
    .paragraph ⟨"b", "The fund opens.", none, none, none, none⟩,
    .paragraph ⟨"c", "Read on.", none, none, none, none⟩,
    .button ⟨"d", "Go", "https://x", none, none, none, none, none, none, none⟩]

/-- They are in order. -/
theorem laidOut_inOrder_iff_of_plainBlocks :
    plainRules.allowReordering = false ∧
      plainRules.requireBlockOrder = some (plainOrder.map .block) ∧
        plainOrder ≠ [] ∧
          (launchOf plainBlocks).blocks.map Block.type = plainOrder ∧
            StandTogether plainOrder ∧
              ∀ strict, checkOrder ⟨plainRules, launchOf plainBlocks, strict⟩ = [] := by
  have fixed : plainRules.allowReordering = false := rfl
  have required : plainRules.requireBlockOrder = some (plainOrder.map .block) := rfl
  have notEmpty : plainOrder ≠ [] := by decide
  have laidOut : (launchOf plainBlocks).blocks.map Block.type = plainOrder := rfl
  have standTogether : StandTogether plainOrder := by decide
  obtain ⟨inOrder, _⟩ := laidOut_inOrder_iff fixed required notEmpty laidOut
  exact ⟨fixed, required, notEmpty, laidOut, standTogether, fun strict =>
    (inOrder strict).mpr standTogether⟩

/-- Blocks laid out in the order of a fund launch, where the paragraph comes back behind the
image. -/
def launchBlocks : List Block :=
  [.title ⟨"1", "T", .h2, none, none⟩,
    .paragraph ⟨"2", "P", none, none, none, none⟩,
    .image ⟨"3", "https://x/y.png", "A", none, none, none, none, none⟩,
    .paragraph ⟨"4", "Q", none, none, none, none⟩,
    .button ⟨"5", "Go", "https://x", none, none, none, none, none, none, none⟩,
    .highlightBox ⟨"6", "H", "#fff", none, none, none, none, none⟩]

/-- So not every document laid out as its order asks is found to be in order: the second
paragraph of the launch is not. -/
theorem not_forall_laidOut_inOrder :
    ¬ ∀ rules (document : Document) (types : List BlockType),
      rules.allowReordering = false →
        rules.requireBlockOrder = some (types.map .block) →
          types ≠ [] →
            document.blocks.map Block.type = types →
              ∀ strict, ∀ issue ∈ document.validate rules strict, issue.code ≠ orderCode := by
  intro inOrder
  have noIssue := inOrder launchRules (launchOf launchBlocks) launchOrder rfl rfl (by decide) rfl
  have isFound : ((launchOf launchBlocks).validate launchRules true).map
      (fun issue => (issue.code, issue.blockId)) = [(orderCode, some "4".toList)] := by
    decide +kernel
  obtain ⟨issue, member, same⟩ := List.mem_map.mp (isFound ▸ List.mem_singleton_self _)
  exact noIssue true issue member (congrArg Prod.fst same)

end Layout

end Validation

end EmailComposer
