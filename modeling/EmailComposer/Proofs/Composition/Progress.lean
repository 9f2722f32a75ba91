import Mathlib.Data.List.Forall2
import EmailComposer.Composition.Compose
import EmailComposer.Proofs.Block.Sanitize
import EmailComposer.Proofs.Schema.Reader

namespace EmailComposer.Composition

/-!
# Sanitizing raw blocks one after the other

Each turn of the loop reads a raw block, sanitizes it strictly, and if it is refused for its
URL records that and sanitizes it again with the URL left alone. Whichever way a turn takes, it
adds the read block with its text sanitized, and an issue exactly if the URL cannot be used. So
the loop fails where reading the raw blocks alone does; otherwise no block is lost, doubled or
moved, and the issues stand in the order of their blocks.
-/

open EmailComposer.Text
open EmailComposer.Json
open EmailComposer.Schema

theorem bind_eq_ok_iff
    {Failure First Second : Type}
    {first : Except Failure First}
    {second : First → Except Failure Second}
    {result : Second} :
    first >>= second = .ok result ↔ ∃ value, first = .ok value ∧ second value = .ok result := by
  cases first with
  | error failure => simp [bind, Except.bind]
  | ok value => simp [bind, Except.bind]

theorem bind_eq_error_iff
    {Failure First Second : Type}
    {first : Except Failure First}
    {second : First → Except Failure Second}
    {failure : Failure} :
    first >>= second = .error failure ↔
      first = .error failure ∨ ∃ value, first = .ok value ∧ second value = .error failure := by
  cases first with
  | error other => simp [bind, Except.bind]
  | ok value => simp [bind, Except.bind]

theorem mapError_eq_ok_iff
    {Failure Other Result : Type}
    {rename : Failure → Other}
    {outcome : Except Failure Result}
    {result : Result} :
    outcome.mapError rename = .ok result ↔ outcome = .ok result := by
  cases outcome <;> simp [Except.mapError]

theorem toOption_eq_some_iff
    {Failure Result : Type}
    {outcome : Except Failure Result}
    {result : Result} :
    outcome.toOption = some result ↔ outcome = .ok result := by
  cases outcome <;> simp [Except.toOption]

theorem map_eq_ok_iff
    {Failure First Second : Type}
    {change : First → Second}
    {outcome : Except Failure First}
    {result : Second} :
    outcome.map change = .ok result ↔ ∃ value, outcome = .ok value ∧ change value = result := by
  cases outcome <;> simp [Except.map]

theorem map_eq_error_iff
    {Failure First Second : Type}
    {change : First → Second}
    {outcome : Except Failure First}
    {failure : Failure} :
    outcome.map change = .error failure ↔ outcome = .error failure := by
  cases outcome <;> simp [Except.map]

section Lists

variable {Failure Item Result : Type} {step : Item → Except Failure Result}

/-- A list is mapped if every element is. -/
theorem mapM_eq_ok_iff
    {items : List Item}
    {results : List Result} :
    items.mapM step = .ok results ↔
      List.Forall₂ (fun item result => step item = .ok result) items results := by
  induction items generalizing results with
  | nil => simp [pure, Except.pure, eq_comm]
  | cons first rest inductionHypothesis =>
      simp only [List.mapM_cons, bind_eq_ok_iff, pure, Except.pure, Except.ok.injEq,
        inductionHypothesis, List.forall₂_cons_left_iff]
      constructor
      · rintro ⟨result, isResult, others, areOthers, rfl⟩
        exact ⟨result, others, isResult, areOthers, rfl⟩
      · rintro ⟨result, others, isResult, areOthers, rfl⟩
        exact ⟨result, isResult, others, areOthers, rfl⟩

/-- The elements of a list can be matched one by one exactly if each of them can. -/
theorem exists_forall₂_iff
    {items : List Item}
    {matched : Item → Result → Prop} :
    (∃ results, List.Forall₂ matched items results) ↔
      ∀ item ∈ items, ∃ result, matched item result := by
  induction items with
  | nil => simp
  | cons first rest inductionHypothesis =>
      simp only [List.forall₂_cons_left_iff, List.forall_mem_cons, ← inductionHypothesis]
      constructor
      · rintro ⟨_, result, others, isResult, areOthers, _⟩
        exact ⟨⟨result, isResult⟩, others, areOthers⟩
      · rintro ⟨⟨result, isResult⟩, others, areOthers⟩
        exact ⟨_, result, others, isResult, areOthers, rfl⟩

/-- The first element that fails decides. -/
theorem mapM_eq_error_iff
    {items : List Item}
    {failure : Failure} :
    items.mapM step = .error failure ↔
      ∃ before item after,
        items = before ++ item :: after ∧
          (∀ earlier ∈ before, ∃ result, step earlier = .ok result) ∧
            step item = .error failure := by
  induction items with
  | nil => simp [pure, Except.pure]
  | cons first rest inductionHypothesis =>
      rw [List.mapM_cons, bind_eq_error_iff]
      constructor
      · rintro (failsFirst | ⟨result, isFirst, failsLater⟩)
        · exact ⟨[], first, rest, rfl, by simp, failsFirst⟩
        · have restFails : rest.mapM step = .error failure := by
            simpa [bind_eq_error_iff, pure, Except.pure] using failsLater
          obtain ⟨before, item, after, rfl, earlier, fails⟩ := inductionHypothesis.mp restFails
          exact ⟨first :: before, item, after, rfl,
            List.forall_mem_cons.mpr ⟨⟨result, isFirst⟩, earlier⟩, fails⟩
      · rintro ⟨before, item, after, split, earlier, fails⟩
        cases before with
        | nil =>
            obtain ⟨rfl, rfl⟩ := List.cons.inj split
            exact .inl fails
        | cons head others =>
            obtain ⟨rfl, rfl⟩ := List.cons.inj split
            obtain ⟨⟨result, isFirst⟩, others⟩ := List.forall_mem_cons.mp earlier
            have restFails := inductionHypothesis.mpr ⟨_, item, after, rfl, others, fails⟩
            exact .inr ⟨result, isFirst, bind_eq_error_iff.mpr (.inl restFails)⟩

/-- A loop whose every turn reads an element and adds it to a state fails as reading all of
them does, and otherwise adds all that was read. -/
theorem foldlM_eq_map_foldl
    {State : Type}
    {next : State → Item → Except Failure State}
    {add : State → Result → State}
    (isTurn : ∀ state item, next state item = (step item).map (add state))
    (items : List Item)
    (state : State) :
    items.foldlM next state = (items.mapM step).map fun results => results.foldl add state := by
  induction items generalizing state with
  | nil => rfl
  | cons first rest inductionHypothesis =>
      rw [List.foldlM_cons, List.mapM_cons, isTurn]
      cases step first with
      | error failure => rfl
      | ok result =>
          have runsOn : rest.foldlM next (add state result) = _ :=
            inductionHypothesis (add state result)
          simp only [Except.map, bind, Except.bind, runsOn]
          cases rest.mapM step with
          | error failure => rfl
          | ok results => rfl

end Lists

section Reading

theorem checked_eq_ok_iff
    {Model : Type}
    {outcome : Checked Model}
    {value : Model} :
    checked outcome = .ok value ↔ outcome = .valid value := by
  cases outcome <;> simp [checked]

theorem checked_eq_error_iff
    {Model : Type}
    {outcome : Checked Model}
    {failure : ComposeError} :
    checked outcome = .error failure ↔
      ∃ faults, outcome = .invalid faults ∧ failure = .invalid faults := by
  cases outcome <;> simp [checked, eq_comm]

/-- Reads a raw block, which has to be an object. -/
def readBlock (raw : Value) : Except ComposeError Block :=
  match raw with
  | .object _ => checked (Block.read raw)
  | _ => .error (.noBlock raw.typeName)

theorem readBlock_eq_ok_iff
    {raw : Value}
    {block : Block} :
    readBlock raw = .ok block ↔ Block.read raw = .valid block := by
  cases raw with
  | object fields => exact checked_eq_ok_iff
  | _ =>
      constructor
      · intro isRead
        cases isRead
      · intro isRead
        obtain ⟨fields, impossible⟩ := exists_of_tagged_eq_valid isRead
        cases impossible

/-- A raw block fails by its faults if it is an object, and for what it is otherwise. -/
theorem readBlock_eq_error_iff
    {raw : Value}
    {failure : ComposeError} :
    readBlock raw = .error failure ↔
      (∃ fields faults,
          raw = .object fields ∧ Block.read raw = .invalid faults ∧ failure = .invalid faults) ∨
        (∀ fields, raw ≠ .object fields) ∧ failure = .noBlock raw.typeName := by
  cases raw with
  | object fields => simp [readBlock, checked_eq_error_iff]
  | _ => simp [readBlock, eq_comm]

end Reading

section Turn

/-- The issue that a block with an unusable URL leaves. -/
def urlIssue (block : Block) : Issue :=
  ⟨"BLOCK_SANITIZATION_FAILED", block.urlComplaint, .error, some block.id, some block.type⟩

/-- What a read block adds: itself with its text sanitized, and an issue if its URL cannot be
used. -/
def Progress.add (progress : Progress) (block : Block) : Progress where
  blocks := progress.blocks ++ [block.sanitizeContent]
  issues := progress.issues ++ if block.hasUnusableUrl then [urlIssue block] else []

/-- What is noted about a block that was refused is the issue with its URL. -/
theorem Progress.note_eq
    (progress : Progress)
    {block : Block}
    {rejection : UrlRejection}
    (namesBlock : rejection.blockId = block.id)
    (complains : rejection.message = block.urlComplaint) :
    progress.note (.parsed block) rejection =
      ⟨progress.blocks, progress.issues ++ [urlIssue block]⟩ := by
  rw [Progress.note, namesBlock, complains]
  rfl

/-- A turn of the loop with a block that was read. -/
theorem Progress.next_of_parsed
    (progress : Progress)
    {raw : Value}
    {block : Block}
    (isRead : Candidate.read raw = .ok (.parsed block)) :
    progress.next raw = .ok (progress.add block) := by
  cases unusable : block.hasUnusableUrl with
  | false =>
      -- The strict attempt succeeds.
      have turned : progress.next raw = .ok (progress.keep block.sanitizeContent) := by
        simp only [Progress.next, isRead, Candidate.sanitize,
          Block.sanitizeWith_of_usable true unusable, Except.mapError, bind, Except.bind, pure,
          Except.pure]
      rw [turned]
      simp only [Progress.keep, Progress.add, unusable, Bool.false_eq_true, if_false,
        List.append_nil]
  | true =>
      -- The strict attempt is refused and the lenient one is made.
      obtain ⟨rejection, refused, namesBlock, complains⟩ :=
        Block.exists_sanitizeWith_true_of_unusable unusable
      have turned : progress.next raw =
          .ok ((progress.note (.parsed block) rejection).keep block.sanitizeContent) := by
        simp only [Progress.next, isRead, Candidate.sanitize, refused, Block.sanitizeWith_false,
          Except.mapError, bind, Except.bind, pure, Except.pure]
      rw [turned, progress.note_eq namesBlock complains]
      simp only [Progress.keep, Progress.add, unusable, if_true]

/-- A turn of the loop with what is no block. -/
theorem Progress.next_of_foreign
    (progress : Progress)
    {raw value : Value}
    (isForeign : Candidate.read raw = .ok (.foreign value)) :
    progress.next raw = .error (.noBlock value.typeName) := by
  simp only [Progress.next, isForeign, Candidate.sanitize, bind, Except.bind]

/-- Every turn reads a raw block and adds it. -/
theorem Progress.next_eq
    (progress : Progress)
    (raw : Value) :
    progress.next raw = (readBlock raw).map progress.add := by
  cases raw with
  | object fields =>
      have isObject : Candidate.read (.object fields) =
          (readBlock (.object fields)).map .parsed :=
        rfl
      cases isRead : readBlock (.object fields) with
      | error failure =>
          rw [isRead] at isObject
          simp only [Progress.next, isObject, Except.map, bind, Except.bind]
      | ok block =>
          rw [isRead] at isObject
          exact progress.next_of_parsed isObject
  | _ => exact progress.next_of_foreign rfl

end Turn

section Run

/-- What several read blocks add. -/
theorem Progress.foldl_add
    (progress : Progress)
    (read : List Block) :
    read.foldl Progress.add progress =
      ⟨progress.blocks ++ read.map Block.sanitizeContent,
        progress.issues ++ (read.filter Block.hasUnusableUrl).map urlIssue⟩ := by
  induction read generalizing progress with
  | nil => simp
  | cons block rest inductionHypothesis =>
      rw [List.foldl_cons, inductionHypothesis]
      cases unusable : block.hasUnusableUrl with
      | false => simp [Progress.add, unusable]
      | true => simp [Progress.add, unusable]

/-- The whole loop: it reads all raw blocks, or fails as reading them does. -/
theorem sanitizeBlocks_eq
    (raw : List Value) :
    sanitizeBlocks raw =
      (raw.mapM readBlock).map fun read =>
        ⟨read.map Block.sanitizeContent, (read.filter Block.hasUnusableUrl).map urlIssue⟩ := by
  rw [sanitizeBlocks, foldlM_eq_map_foldl Progress.next_eq]
  simp only [Progress.foldl_add, Progress.start, List.nil_append]

end Run

end EmailComposer.Composition
