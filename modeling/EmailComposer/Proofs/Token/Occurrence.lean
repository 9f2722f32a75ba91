import EmailComposer.Proofs.Token.Apart
import EmailComposer.Proofs.Token.Weave

namespace EmailComposer.Token

/-!
# Where placeholders occur

In a weave a placeholder occurs where it was put as a mark, or it is spelled out by typed
characters that stand side by side. It never reaches over a mark or over made text, because
no placeholder overlaps another and made text begins and ends with no letter or digit.
-/

open EmailComposer.Text
open EmailComposer.Markup

theorem Clear.of_append
    {start rest : Text}
    (clear : Clear (start ++ rest)) :
    Clear rest := by
  induction start with
  | nil => exact clear
  | cons first others inductionHypothesis => exact inductionHypothesis clear.2

/-- The part begins at one place of the text at most. -/
def OccursAtMostOnce (part text : Text) : Prop :=
  ∀ before after otherBefore otherAfter,
    text = before ++ (part ++ after) →
    text = otherBefore ++ (part ++ otherAfter) →
    before = otherBefore

/-- The text begins and ends with no letter or digit, and the word is not in it. -/
structure IsClosedTo (word text : Text) : Prop where
  starts : ∃ char ∈ text.head?, isAsciiAlphanumeric char = false
  ends : ∃ char ∈ text.getLast?, isAsciiAlphanumeric char = false
  missing : ¬ word <:+: text

namespace Weave

/-- The placeholder occurs in the text of the weave only where it was put as a mark. -/
def StandsAtMark (weave : Weave) (entry : Placeholder) : Prop :=
  ∀ before after,
    weave.spelling = before ++ (entry.1 ++ after) →
    ∃ earlier later : Weave,
      weave = earlier ++ .mark entry :: later ∧ earlier.spelling = before

/-- Typed characters that stand side by side spell the placeholder out. -/
def SpellsOut (weave : Weave) (entry : Placeholder) : Prop :=
  entry.1.map .typed <:+: weave

/-- The placeholder is told apart from every other strand of the weave. -/
structure TellsApart (weave : Weave) (entry : Placeholder) : Prop where
  made : ∀ text, .made text ∈ weave → IsClosedTo entry.1 text
  apart : ∀ other, .mark other ∈ weave → IsApart other.1
  same : ∀ other, .mark other ∈ weave → ∀ rest, entry.1 <+: other.1 ++ rest → other = entry

section Occurrence

variable {weave : Weave} {entry : Placeholder}

theorem TellsApart.of_subset
    {part : Weave}
    (tellsApart : weave.TellsApart entry)
    (isSubset : part ⊆ weave) :
    part.TellsApart entry where
  made text member := tellsApart.made text (isSubset member)
  apart other member := tellsApart.apart other (isSubset member)
  same other member := tellsApart.same other (isSubset member)

/-- What is left of a placeholder that begins in typed text is typed as well. -/
theorem TellsApart.map_typed_prefix
    (tellsApart : weave.TellsApart entry)
    {word after : Text}
    (isWord : ∀ char ∈ word, isAsciiAlphanumeric char = true)
    (clear : Clear word)
    (shape : weave.spelling = word ++ after) :
    word.map .typed <+: weave := by
  induction word generalizing weave with
  | nil => exact List.nil_prefix
  | cons char others inductionHypothesis =>
      cases weave with
      | nil => cases shape
      | cons strand rest =>
          have onward := tellsApart.of_subset (List.subset_cons_self strand rest)
          cases strand with
          | typed typedChar =>
              obtain ⟨rfl, restShape⟩ := List.cons.inj shape
              have othersWord : ∀ other ∈ others, isAsciiAlphanumeric other = true :=
                fun other member => isWord other (by simp [member])
              exact List.cons_prefix_cons.mpr
                ⟨rfl, inductionHypothesis onward othersWord clear.2 restShape⟩
          | mark other =>
              -- A mark begins like no clear text.
              obtain ⟨letters, markShape, _⟩ := tellsApart.apart other (by simp)
              simp only [spelling_cons, Strand.spelling, markShape, List.cons_append] at shape
              obtain ⟨isZero, nextShape⟩ := List.cons.inj shape
              obtain ⟨next, isNext, different⟩ := clear.1 isZero.symm
              cases others with
              | nil => cases isNext
              | cons second more =>
                  cases isNext
                  exact absurd (List.cons.inj nextShape).1.symm different
          | made text =>
              obtain ⟨first, isFirst, noWord⟩ := (tellsApart.made text (by simp)).starts
              obtain ⟨tail, rfl⟩ := List.head?_eq_some_iff.mp isFirst
              obtain ⟨rfl, _⟩ := List.cons.inj shape
              rw [isWord first (by simp)] at noWord
              cases noWord

/-- A placeholder that begins in a strand begins with the strand: the strand is its mark, or
its first typed character. -/
theorem TellsApart.occurrence_at_head
    {strand : Strand}
    {rest : Weave}
    (tellsApart : TellsApart (strand :: rest) entry)
    (isMark : IsMark entry.1)
    (isApart : IsApart entry.1)
    {before middle after : Text}
    (strandShape : strand.spelling = before ++ middle)
    (notEmpty : middle ≠ [])
    (wordShape : entry.1 ++ after = middle ++ spelling rest) :
    before = [] ∧
      (strand = .mark entry ∨ ∃ later, strand :: rest = entry.1.map .typed ++ later) := by
  obtain ⟨letters, isLetters, clear⟩ := isApart
  cases strand with
  | typed char =>
      obtain ⟨rfl, rfl⟩ : before = [] ∧ middle = [char] := by
        cases before with
        | nil => exact ⟨rfl, strandShape.symm⟩
        | cons first others =>
            have isEmpty := (List.cons.inj strandShape).2
            exact absurd (List.append_eq_nil_iff.mp isEmpty.symm).2 notEmpty
      rw [isLetters] at wordShape
      obtain ⟨rfl, restShape⟩ := List.cons.inj wordShape
      have onward := tellsApart.of_subset (List.subset_cons_self _ rest)
      have lettersWord : ∀ char ∈ 'm' :: letters, isAsciiAlphanumeric char = true := by
        intro char member
        exact isMark.isAsciiAlphanumeric_of_mem char (by rw [isLetters]; simp [member])
      obtain ⟨later, isLater⟩ := onward.map_typed_prefix lettersWord clear restShape.symm
      exact ⟨rfl, .inr ⟨later, by rw [isLetters, ← isLater]; rfl⟩⟩
  | mark other =>
      cases before with
      | nil =>
          have isPrefix : entry.1 <+: other.1 ++ spelling rest :=
            ⟨after, wordShape.trans (by rw [← List.nil_append middle, ← strandShape]; rfl)⟩
          exact ⟨rfl, .inl (congrArg _ (tellsApart.same other (by simp) _ isPrefix))⟩
      | cons first others =>
          -- Behind its first character a mark is clear, so no placeholder begins there.
          exfalso
          obtain ⟨otherLetters, otherShape, otherClear⟩ := tellsApart.apart other (by simp)
          have sameText : '0' :: 'm' :: otherLetters = first :: (others ++ middle) :=
            otherShape.symm.trans strandShape
          rw [(List.cons.inj sameText).2] at otherClear
          rw [isLetters] at wordShape
          exact notEmpty (otherClear.of_append.eq_nil_of_prefix ⟨spelling rest, wordShape.symm⟩)
  | made text =>
      exfalso
      have isClosed := tellsApart.made text (by simp)
      replace strandShape : text = before ++ middle := strandShape
      rcases List.append_eq_append_iff.mp wordShape with
          ⟨more, middleShape, _⟩ | ⟨more, isWord, _⟩
      · exact isClosed.missing ⟨before, more, by rw [strandShape, middleShape, List.append_assoc]⟩
      · obtain ⟨last, isLast, noWord⟩ := isClosed.ends
        rw [strandShape, List.getLast?_append_of_ne_nil _ notEmpty] at isLast
        have inWord : last ∈ entry.1 := by
          rw [isWord]
          exact List.mem_append_left more (List.mem_of_getLast? isLast)
        rw [isMark.isAsciiAlphanumeric_of_mem last inWord] at noWord
        cases noWord

/-- An occurrence of a placeholder is a mark of it, or spelled out by typed characters. -/
theorem TellsApart.occurrence_cases
    (tellsApart : weave.TellsApart entry)
    (isMark : IsMark entry.1)
    (isApart : IsApart entry.1)
    {before after : Text}
    (shape : weave.spelling = before ++ (entry.1 ++ after)) :
    ∃ earlier later : Weave,
      earlier.spelling = before ∧
        (weave = earlier ++ .mark entry :: later ∨
          weave = earlier ++ (entry.1.map .typed ++ later)) := by
  induction weave generalizing before with
  | nil =>
      have isEmpty := (List.append_eq_nil_iff.mp (List.append_eq_nil_iff.mp shape.symm).2).1
      exact absurd isEmpty isMark.ne_nil
  | cons strand rest inductionHypothesis =>
      have behind : ∀ middle,
          before = strand.spelling ++ middle →
          spelling rest = middle ++ (entry.1 ++ after) →
          ∃ earlier later : Weave,
            earlier.spelling = before ∧
              (strand :: rest = earlier ++ .mark entry :: later ∨
                strand :: rest = earlier ++ (entry.1.map .typed ++ later)) := by
        intro middle beforeShape restShape
        obtain ⟨earlier, later, isSpelled, cases⟩ :=
          inductionHypothesis (tellsApart.of_subset (List.subset_cons_self strand rest)) restShape
        refine ⟨strand :: earlier, later, by rw [spelling_cons, isSpelled, beforeShape], ?_⟩
        exact cases.imp (congrArg (strand :: ·)) (congrArg (strand :: ·))
      rw [spelling_cons] at shape
      rcases List.append_eq_append_iff.mp shape with
          ⟨middle, beforeShape, restShape⟩ | ⟨middle, strandShape, wordShape⟩
      · exact behind middle beforeShape restShape
      · by_cases isEmpty : middle = []
        · rw [isEmpty, List.append_nil] at strandShape
          rw [isEmpty, List.nil_append] at wordShape
          exact behind [] (by rw [strandShape, List.append_nil]) wordShape.symm
        · obtain ⟨rfl, cases⟩ :=
            tellsApart.occurrence_at_head isMark isApart strandShape isEmpty wordShape
          rcases cases with rfl | ⟨later, isLater⟩
          · exact ⟨[], rest, rfl, .inl rfl⟩
          · exact ⟨[], later, rfl, .inr isLater⟩

theorem TellsApart.spelling_ne_nil
    (tellsApart : weave.TellsApart entry)
    {strand : Strand}
    (member : strand ∈ weave) :
    strand.spelling ≠ [] := by
  cases strand with
  | typed char => exact List.cons_ne_nil char []
  | mark other => exact (tellsApart.apart other member).ne_nil
  | made text =>
      obtain ⟨first, isFirst, _⟩ := (tellsApart.made text member).starts
      rintro rfl
      cases isFirst

/-- A place in the text is a place in the weave. -/
theorem TellsApart.eq_of_spelling_eq
    (tellsApart : weave.TellsApart entry)
    {earlier later otherEarlier otherLater : Weave}
    (isSplit : weave = earlier ++ later)
    (isOtherSplit : weave = otherEarlier ++ otherLater)
    (samePlace : earlier.spelling = otherEarlier.spelling) :
    earlier = otherEarlier := by
  have nothingBetween : ∀ middle : Weave, middle ⊆ weave → middle.spelling = [] → middle = [] := by
    intro middle isSubset isEmpty
    rw [List.eq_nil_iff_forall_not_mem]
    intro strand member
    exact tellsApart.spelling_ne_nil (isSubset member) (List.flatMap_eq_nil_iff.mp isEmpty _ member)
  rcases List.append_eq_append_iff.mp (isSplit.symm.trans isOtherSplit) with
      ⟨middle, rfl, rfl⟩ | ⟨middle, rfl, rfl⟩
  · have isEmpty : spelling middle = [] := by
      simpa using samePlace.symm
    rw [nothingBetween middle (by simp [isSplit]) isEmpty, List.append_nil]
  · have isEmpty : spelling middle = [] := by
      simpa using samePlace
    rw [nothingBetween middle (by simp [isOtherSplit]) isEmpty, List.append_nil]

/-- A placeholder stands at marks only, exactly if typed characters do not spell it out. -/
theorem TellsApart.standsAtMark_iff
    (tellsApart : weave.TellsApart entry)
    (isMark : IsMark entry.1)
    (isApart : IsApart entry.1) :
    weave.StandsAtMark entry ↔ ¬ weave.SpellsOut entry := by
  constructor
  · rintro standsAtMark ⟨earlier, later, isSplit⟩
    rw [List.append_assoc] at isSplit
    obtain ⟨otherEarlier, otherLater, isMarkSplit, samePlace⟩ :=
      standsAtMark (spelling earlier) (spelling later)
        (by rw [← isSplit, spelling_append, spelling_append, spelling_map_typed])
    obtain rfl := tellsApart.eq_of_spelling_eq isMarkSplit isSplit.symm samePlace
    obtain ⟨letters, isLetters, _⟩ := isApart
    have sameStrand := List.append_cancel_left (isMarkSplit.symm.trans isSplit.symm)
    rw [isLetters] at sameStrand
    cases (List.cons.inj sameStrand).1
  · intro notSpelled before after shape
    obtain ⟨earlier, later, isSpelled, cases⟩ :=
      tellsApart.occurrence_cases isMark isApart shape
    rcases cases with isMarkSplit | isTyped
    · exact ⟨earlier, later, isMarkSplit, isSpelled⟩
    · exact absurd ⟨earlier, later, by rw [isTyped, List.append_assoc]⟩ notSpelled

/-- A placeholder that is put once as a mark and stands at marks only occurs at most once. -/
theorem StandsAtMark.occursAtMostOnce
    (standsAtMark : weave.StandsAtMark entry)
    (once : weave.marks.Nodup) :
    OccursAtMostOnce entry.1 weave.spelling := by
  intro before after otherBefore otherAfter shape otherShape
  obtain ⟨earlier, later, isSplit, rfl⟩ := standsAtMark before after shape
  obtain ⟨otherEarlier, otherLater, isOtherSplit, rfl⟩ :=
    standsAtMark otherBefore otherAfter otherShape
  have apart : .mark entry ∉ earlier ∧ .mark entry ∉ later := by
    rw [isSplit, marks, List.filterMap_append, List.filterMap_cons, List.nodup_append] at once
    obtain ⟨_, onceLater, disjoint⟩ := once
    exact ⟨fun member => disjoint entry (mem_marks.mpr member) entry (by simp [Strand.mark?]) rfl,
      fun member => (List.nodup_cons.mp onceLater).1 (mem_marks.mpr member)⟩
  have sameSplit := isSplit.symm.trans isOtherSplit
  rw [List.append_cons_inj_of_notMem apart.1 apart.2] at sameSplit
  rw [sameSplit.1]

end Occurrence

end Weave

end EmailComposer.Token
