import EmailComposer.Proofs.Token.Stretch

namespace EmailComposer.Token

/-!
# Tokens put back at once

Tokens are put back one after another, and in general the order of replacements matters: one
may tear what another one looks for, or complete it. The placeholders of a masked text do
neither. Whatever text they are looked for in, it can be read as a weave in which each of
them is a mark, and every order of replacements fills these marks with their tokens.
-/

open EmailComposer.Text
open EmailComposer.Markup

/-- The stem that the search ends with: it does not occur in the text, and all shorter ones
do. -/
structure IsFirstFree (text stem : Text) : Prop where
  free : ¬ stem <:+: text
  first :
    ∃ count,
      stem = stemStart ++ List.replicate count 'x' ∧
        ∀ fewer < count, stemStart ++ List.replicate fewer 'x' <:+: text

theorem isFirstFree_stemFor
    (text : Text) :
    IsFirstFree text (stemFor text) where
  free := not_infix_stemFor text
  first := exists_freeStem_eq text stemStart (text.length + 1)

/-- Two placeholders of which neither is a part of the other. -/
structure AreSeparate (first second : Placeholder) : Prop where
  different : first.1 ≠ second.1
  notInside : ¬ first.1 <:+: second.1
  notAround : ¬ second.1 <:+: first.1

/-- A word that begins like a placeholder occurs in a placeholder at its beginning only. -/
theorem IsApart.prefix_of_infix
    {word other : Text}
    (isApart : IsApart word)
    (isOtherApart : IsApart other)
    (isInfix : word <:+: other) :
    word <+: other := by
  obtain ⟨letters, rfl, _⟩ := isApart
  obtain ⟨otherLetters, rfl, clear⟩ := isOtherApart
  rcases List.infix_cons_iff.mp isInfix with atStart | behind
  · exact atStart
  · rw [← List.append_nil ('m' :: otherLetters)] at behind
    cases List.infix_nil.mp (clear.infix_of_infix_append behind)

theorem pairwise_areSeparate_mask
    (text : Text)
    (keepsFormatting : Bool) :
    (mask text keepsFormatting).placeholders.Pairwise AreSeparate := by
  refine pairwise_areToldApart_maskPieces.imp_of_mem ?_
  intro first second isFirst isSecond toldApart
  have noPrefixes := toldApart []
  rw [List.append_nil, List.append_nil] at noPrefixes
  have firstApart : IsApart first.1 := isApart_of_mem_mask isFirst
  have secondApart : IsApart second.1 := isApart_of_mem_mask isSecond
  exact
    { different := fun same => noPrefixes.1 (by rw [same])
      notInside := fun isInfix => noPrefixes.1 (firstApart.prefix_of_infix secondApart isInfix)
      notAround := fun isInfix => noPrefixes.2 (secondApart.prefix_of_infix firstApart isInfix) }

/-- Recognises the placeholders of a list, the first one of it that fits. -/
def placeholderPattern (placeholders : List Placeholder) : Pattern Placeholder where
  read? text :=
    placeholders.findSome? fun entry =>
      ((Pattern.literal entry.1).read? text).map fun found => (entry, found.2)
  uses := by
    intro text value rest found
    obtain ⟨entry, _, isRead⟩ := List.exists_of_findSome?_eq_some found
    obtain ⟨⟨_, left⟩, isFound, same⟩ := Option.map_eq_some_iff.mp isRead
    cases same
    exact (Pattern.literal _).uses isFound

/-- Swaps all placeholders back at once: the text is walked through a single time, and what
was put back is not looked at again. -/
def restoreAtOnce (text : Text) (placeholders : List Placeholder) : Text :=
  (placeholderPattern placeholders).replace Prod.snd text

/-- The change replaces every occurrence of every placeholder, wherever it stands, and
nothing else. -/
structure ReplacesEach (placeholders : List Placeholder) (change : Text → Text) : Prop where
  kept : ∀ text, (∀ entry ∈ placeholders, ¬ entry.1 <:+: text) → change text = text
  replaced :
    ∀ entry ∈ placeholders, ∀ before after,
      change (before ++ (entry.1 ++ after)) = change before ++ (entry.2 ++ change after)

section Read

variable {text current rest : Text} {keepsFormatting : Bool} {entry : Placeholder}

/-- A placeholder of a masked text is recognised where it begins, and no other one is. -/
theorem read?_placeholderPattern_eq_some_iff :
    (placeholderPattern (mask text keepsFormatting).placeholders).read? current =
        some (entry, rest) ↔
      entry ∈ (mask text keepsFormatting).placeholders ∧ current = entry.1 ++ rest := by
  have sound : ∀ {found left},
      (placeholderPattern (mask text keepsFormatting).placeholders).read? current =
          some (found, left) →
        found ∈ (mask text keepsFormatting).placeholders ∧ current = found.1 ++ left := by
    intro found left isRead
    obtain ⟨source, isSource, isFound⟩ := List.exists_of_findSome?_eq_some isRead
    obtain ⟨⟨_, _⟩, isLiteral, same⟩ := Option.map_eq_some_iff.mp isFound
    cases same
    exact ⟨isSource,
      (read?_literal_eq_some_iff (isApart_of_mem_mask isSource).ne_nil).mp isLiteral⟩
  refine ⟨sound, fun ⟨member, shape⟩ => ?_⟩
  have isLiteral : (Pattern.literal entry.1).read? current = some ((), rest) :=
    (read?_literal_eq_some_iff (isApart_of_mem_mask member).ne_nil).mpr shape
  cases isRead : (placeholderPattern (mask text keepsFormatting).placeholders).read? current with
  | none =>
      have missing := List.findSome?_eq_none_iff.mp isRead entry member
      rw [isLiteral] at missing
      cases missing
  | some reading =>
      obtain ⟨found, left⟩ := reading
      obtain ⟨isFound, foundShape⟩ := sound isRead
      have sameText := foundShape.symm.trans shape
      obtain rfl := eq_of_prefix_of_mem_mask isFound member ⟨left, sameText⟩
      rw [List.append_cancel_left sameText]

theorem read?_placeholderPattern_eq_none_iff :
    (placeholderPattern (mask text keepsFormatting).placeholders).read? current = none ↔
      ∀ entry ∈ (mask text keepsFormatting).placeholders, ¬ entry.1 <+: current := by
  rw [Option.eq_none_iff_forall_ne_some]
  constructor
  · intro unread entry member ⟨rest, shape⟩
    exact unread _ (read?_placeholderPattern_eq_some_iff.mpr ⟨member, shape.symm⟩)
  · intro missing found isRead
    obtain ⟨member, shape⟩ := read?_placeholderPattern_eq_some_iff.mp isRead
    exact missing found.1 member ⟨found.2, shape.symm⟩

end Read

/-- A strand with its token put back, if it is a mark. -/
def Strand.settle : Strand → Strand
  | .mark entry => .made entry.2
  | strand => strand

theorem Strand.eq_typed_of_settle
    (strand : Strand)
    (char : Char)
    (isTyped : strand.settle = .typed char) :
    strand = .typed char := by
  cases strand with
  | typed other => exact isTyped
  | mark entry => cases isTyped
  | made text => cases isTyped

namespace Weave

/-- A text read as a weave: typed characters and placeholders of a masked text, and none of
the placeholders is left to be spelled out. -/
structure IsReading (text : Text) (keepsFormatting : Bool) (weave : Weave) : Prop where
  marks : ∀ entry, .mark entry ∈ weave → entry ∈ (mask text keepsFormatting).placeholders
  unmade : ∀ made, .made made ∉ weave
  notSpelled : ∀ entry ∈ (mask text keepsFormatting).placeholders, ¬ weave.SpellsOut entry

/-- Every text can be read so. -/
theorem exists_isReading
    (text : Text)
    (keepsFormatting : Bool)
    (current : Text) :
    ∃ weave : Weave, weave.IsReading text keepsFormatting ∧ weave.spelling = current := by
  have allTyped : ∀ strand ∈ current.map Strand.typed, ∃ char, strand = .typed char := by
    intro strand member
    obtain ⟨char, _, rfl⟩ := List.mem_map.mp member
    exact ⟨char, rfl⟩
  have notEmpty : ∀ entry ∈ (mask text keepsFormatting).placeholders, entry.1 ≠ [] :=
    fun _ member => (isApart_of_mem_mask member).ne_nil
  have noMarks : ∀ entry, .mark entry ∈ current.map Strand.typed →
      entry ∈ (mask text keepsFormatting).placeholders := by
    intro entry member
    obtain ⟨char, isTyped⟩ := allTyped _ member
    cases isTyped
  obtain ⟨reading, sameText, hasMarks, hasMade, notSpelled⟩ :=
    exists_reading notEmpty (current.map .typed) noMarks
  refine ⟨reading, ⟨hasMarks, fun made member => ?_, notSpelled⟩, ?_⟩
  · obtain ⟨char, isTyped⟩ := allTyped _ (hasMade made member)
    cases isTyped
  · rw [sameText, spelling_map_typed]

section Reading

variable {text : Text} {keepsFormatting : Bool} {weave other : Weave} {entry : Placeholder}

theorem IsReading.isMasked
    (isReading : weave.IsReading text keepsFormatting) :
    weave.IsMasked text keepsFormatting where
  marks := isReading.marks
  made made member := absurd member (isReading.unmade made)

theorem IsReading.tail
    {strand : Strand}
    (isReading : IsReading text keepsFormatting (strand :: weave)) :
    weave.IsReading text keepsFormatting where
  marks entry member := isReading.marks entry (List.mem_cons_of_mem strand member)
  unmade made member := isReading.unmade made (List.mem_cons_of_mem strand member)
  notSpelled entry member spellsOut :=
    isReading.notSpelled entry member (spellsOut.trans (List.suffix_cons strand weave).isInfix)

/-- Two texts are read on their own on the two sides of a placeholder. -/
theorem IsReading.append_mark
    (isReading : weave.IsReading text keepsFormatting)
    (isOtherReading : other.IsReading text keepsFormatting)
    (member : entry ∈ (mask text keepsFormatting).placeholders) :
    IsReading text keepsFormatting (weave ++ .mark entry :: other) where
  marks mark isMark := by
    simp only [List.mem_append, List.mem_cons, Strand.mark.injEq] at isMark
    rcases isMark with inFirst | rfl | inSecond
    · exact isReading.marks mark inFirst
    · exact member
    · exact isOtherReading.marks mark inSecond
  unmade made isMade := by
    simp only [List.mem_append, List.mem_cons, reduceCtorEq, false_or] at isMade
    exact isMade.elim (isReading.unmade made) (isOtherReading.unmade made)
  notSpelled spelled isSpelled spellsOut := by
    have noMark : .mark entry ∉ spelled.1.map Strand.typed := by
      simp
    have notEmpty : spelled.1.map Strand.typed ≠ [] := by
      simpa using (isApart_of_mem_mask isSpelled).ne_nil
    rcases (infix_append_cons_iff noMark notEmpty).mp spellsOut with inFirst | inSecond
    · exact isReading.notSpelled spelled isSpelled inFirst
    · exact isOtherReading.notSpelled spelled isSpelled inSecond

/-- In every order the tokens are put back into the marks of a reading. -/
theorem IsReading.restore_spelling
    (isReading : weave.IsReading text keepsFormatting)
    {order : List Placeholder}
    (isOrder : order.Perm (mask text keepsFormatting).placeholders) :
    restore weave.spelling order = weave.restored :=
  Weave.restore_spelling
    (fun entry member => isOrder.mem_iff.mpr (isReading.marks entry member))
    (fun _ member =>
      ⟨isMark_of_mem_mask (isOrder.mem_iff.mp member),
        isApart_of_mem_mask (isOrder.mem_iff.mp member)⟩)
    (fun _ member _ otherMember =>
      isClosedTo_kept (isOrder.mem_iff.mp member) (isOrder.mem_iff.mp otherMember))
    (fun _ member => isReading.isMasked.tellsApart (isOrder.mem_iff.mp member))
    (fun _ member => isReading.notSpelled _ (isOrder.mem_iff.mp member))

/-- And so they are at once. -/
theorem IsReading.restoreAtOnce_spelling
    (isReading : weave.IsReading text keepsFormatting) :
    restoreAtOnce weave.spelling (mask text keepsFormatting).placeholders = weave.restored := by
  induction weave with
  | nil => exact Pattern.replace_nil _ _
  | cons strand rest inductionHypothesis =>
      have onward := inductionHypothesis isReading.tail
      cases strand with
      | typed char =>
          have missing : ∀ entry ∈ (mask text keepsFormatting).placeholders,
              ¬ entry.1 <+: char :: spelling rest := by
            intro entry member ⟨after, shape⟩
            have atHead : Strand.spelling (.typed char) = [] ++ [char] := rfl
            obtain ⟨_, isMark | ⟨later, isTyped⟩⟩ :=
              (isReading.isMasked.tellsApart member).occurrence_at_head
                (isMark_of_mem_mask member) (isApart_of_mem_mask member) atHead
                (List.cons_ne_nil char []) shape
            · cases isMark
            · exact isReading.notSpelled entry member ⟨[], later, isTyped.symm⟩
          have step : restoreAtOnce (char :: spelling rest) _ = char :: restoreAtOnce _ _ :=
            Pattern.replace_of_none (read?_placeholderPattern_eq_none_iff.mpr missing)
          exact step.trans (congrArg (char :: ·) onward)
      | mark entry =>
          have member := isReading.marks entry (by simp)
          have step : restoreAtOnce (entry.1 ++ spelling rest) _ = entry.2 ++ restoreAtOnce _ _ :=
            Pattern.replace_of_some (read?_placeholderPattern_eq_some_iff.mpr ⟨member, rfl⟩)
          exact step.trans (congrArg (entry.2 ++ ·) onward)
      | made made => exact absurd (by simp) (isReading.unmade made)

theorem restored_eq_spelling_settle
    (weave : Weave) :
    weave.restored = spelling (weave.map Strand.settle) := by
  rw [restored, spelling, List.flatMap_map]
  refine List.flatMap_congr fun strand _ => ?_
  cases strand <;> rfl

/-- Tokens that were put back, and what stands around them, hold no placeholder. -/
theorem IsReading.not_infix_restored
    (isReading : weave.IsReading text keepsFormatting)
    (member : entry ∈ (mask text keepsFormatting).placeholders) :
    ¬ entry.1 <:+: weave.restored := by
  have noMark : ∀ mark, .mark mark ∉ weave.map Strand.settle := by
    intro mark inSettled
    obtain ⟨source, _, isMark⟩ := List.mem_map.mp inSettled
    cases source <;> cases isMark
  have tellsApart : TellsApart (weave.map Strand.settle) entry :=
    { made := by
        intro made inSettled
        obtain ⟨source, isSource, isMade⟩ := List.mem_map.mp inSettled
        cases source with
        | typed char => cases isMade
        | mark mark =>
            cases isMade
            exact isClosedTo_kept (isReading.marks mark isSource) member
        | made made => exact absurd isSource (isReading.unmade made)
      apart := fun mark inSettled => absurd inSettled (noMark mark)
      same := fun mark inSettled => absurd inSettled (noMark mark) }
  rintro ⟨before, after, shape⟩
  rw [List.append_assoc, restored_eq_spelling_settle] at shape
  obtain ⟨earlier, later, _, isMark | isTyped⟩ :=
    tellsApart.occurrence_cases (isMark_of_mem_mask member) (isApart_of_mem_mask member) shape.symm
  · exact noMark entry (by rw [isMark]; simp)
  · have spellsOut : SpellsOut (weave.map Strand.settle) entry :=
      ⟨earlier, later, by rw [isTyped, List.append_assoc]⟩
    exact isReading.notSpelled entry member (spellsOut_of_map Strand.eq_typed_of_settle spellsOut)

end Reading

end Weave

section Order

variable {text : Text} {keepsFormatting : Bool} {order : List Placeholder}
  (isOrder : order.Perm (mask text keepsFormatting).placeholders)

include isOrder

/-- One after another the tokens are put back as they are at once. -/
theorem restore_eq_restoreAtOnce
    (current : Text) :
    restore current order = restoreAtOnce current (mask text keepsFormatting).placeholders := by
  obtain ⟨weave, isReading, rfl⟩ := Weave.exists_isReading text keepsFormatting current
  rw [isReading.restore_spelling isOrder, isReading.restoreAtOnce_spelling]

/-- No placeholder is left over. -/
theorem not_infix_restore
    (current : Text) :
    ∀ entry ∈ (mask text keepsFormatting).placeholders, ¬ entry.1 <:+: restore current order := by
  obtain ⟨weave, isReading, rfl⟩ := Weave.exists_isReading text keepsFormatting current
  intro entry member
  rw [isReading.restore_spelling isOrder]
  exact isReading.not_infix_restored member

/-- No occurrence is missed, wherever it stands. -/
theorem replacesEach_restore :
    ReplacesEach (mask text keepsFormatting).placeholders (restore · order) where
  kept := by
    intro current missing
    obtain ⟨weave, isReading, rfl⟩ := Weave.exists_isReading text keepsFormatting current
    rw [isReading.restore_spelling isOrder]
    refine List.flatMap_congr fun strand isStrand => ?_
    cases strand with
    | typed char => rfl
    | mark entry =>
        obtain ⟨earlier, later, rfl⟩ := List.append_of_mem isStrand
        refine absurd ?_ (missing entry (isReading.marks entry isStrand))
        exact ⟨Weave.spelling earlier, Weave.spelling later, by simp [Strand.spelling]⟩
    | made made => exact absurd isStrand (isReading.unmade made)
  replaced := by
    intro entry member before after
    obtain ⟨weave, isReading, rfl⟩ := Weave.exists_isReading text keepsFormatting before
    obtain ⟨other, isOtherReading, rfl⟩ := Weave.exists_isReading text keepsFormatting after
    have joined := (isReading.append_mark isOtherReading member).restore_spelling isOrder
    have shape : Weave.spelling (weave ++ .mark entry :: other) =
        weave.spelling ++ (entry.1 ++ other.spelling) := by
      simp [Strand.spelling]
    rw [isReading.restore_spelling isOrder, isOtherReading.restore_spelling isOrder, ← shape,
      joined]
    simp [Weave.restored, Strand.restored]

end Order

/-- The tokens of a masked text are put back into any text in whatever order, with one result:
every placeholder in it is replaced at once, and none is left over. -/
theorem restore_inAnyOrder
    (text : Text)
    (keepsFormatting : Bool) :
    IsFirstFree text (stemFor text) ∧
      (mask text keepsFormatting).placeholders.Pairwise AreSeparate ∧
      ∀ order : List Placeholder,
        order.Perm (mask text keepsFormatting).placeholders →
        ReplacesEach (mask text keepsFormatting).placeholders (restore · order) ∧
          ∀ current,
            restore current order =
                restoreAtOnce current (mask text keepsFormatting).placeholders ∧
              ∀ entry ∈ (mask text keepsFormatting).placeholders,
                ¬ entry.1 <:+: restore current order := by
  refine ⟨isFirstFree_stemFor text, pairwise_areSeparate_mask text keepsFormatting, ?_⟩
  intro order isOrder
  refine ⟨replacesEach_restore isOrder, fun current => ?_⟩
  exact ⟨restore_eq_restoreAtOnce isOrder current, not_infix_restore isOrder current⟩

/-- The first stem stands in this text, so its placeholders have one letter more. -/
def greeting : Text :=
  "0mbtoken\x7b\x7bemail\x7d\x7d\x7b\x7bbold:#fff\x7d\x7d"

/-- The tokens of the greeting are put back, the last one first, where its placeholders touch
and begin again. -/
theorem restore_backwards :
    (mask greeting true).placeholders.reverse.Perm (mask greeting true).placeholders ∧
      restore "0mbtokenx0mbtokenx0z0mbtokenxf1zz0mbtokenx1z"
          (mask greeting true).placeholders.reverse =
        restoreAtOnce "0mbtokenx0mbtokenx0z0mbtokenxf1zz0mbtokenx1z"
          (mask greeting true).placeholders ∧
      restoreAtOnce "0mbtokenx0mbtokenx0z0mbtokenxf1zz0mbtokenx1z"
          (mask greeting true).placeholders =
        ("0mbtokenx\x7b\x7bemail\x7d\x7d\x7b\x7bbold:#fff\x7d\x7dz0mbtokenx1z" : Text) := by
  have isOrder := List.reverse_perm (mask greeting true).placeholders
  obtain ⟨_, _, inAnyOrder⟩ := restore_inAnyOrder greeting true
  exact ⟨isOrder, ((inAnyOrder _ isOrder).2 _).1, by decide +kernel⟩

end EmailComposer.Token
