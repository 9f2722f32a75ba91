import EmailComposer.Proofs.Markup.Segment
import EmailComposer.Proofs.Text.Case

namespace EmailComposer.Markup

/-!
# Where attribute values stand

A value stands in the body of its tag between quotes, or between the equals sign and
whatever ends a bare value. Either way no word goes on across its ends, so taking a value
out of a tag tears no word.
-/

open EmailComposer.Text

theorem isAsciiAlphanumeric_of_isBlank
    {char : Char}
    (blank : isBlank char = true) :
    isAsciiAlphanumeric char = false := by
  by_contra isWord
  rw [Bool.not_eq_false] at isWord
  have notBlank := forall_ascii
    (motive := fun char => isAsciiAlphanumeric char = true → isBlank char = false)
    (by decide +kernel) (toNat_lt_of_isAsciiAlphanumeric isWord) isWord
  rw [blank] at notBlank
  cases notBlank

theorem isBareValueChar_of_isAsciiAlphanumeric
    {char : Char}
    (isWord : isAsciiAlphanumeric char = true) :
    isBareValueChar char = true :=
  forall_ascii
    (motive := fun char => isAsciiAlphanumeric char = true → isBareValueChar char = true)
    (by decide +kernel) (toNat_lt_of_isAsciiAlphanumeric isWord) isWord

/-- The value is empty or stands in the text where no word goes on across its ends. -/
def StandsApart (value text : Text) : Prop :=
  value = [] ∨
    ∃ before after,
      text = before ++ (value ++ after) ∧
        (∃ last ∈ before.getLast?, isAsciiAlphanumeric last = false) ∧
          Stops isAsciiAlphanumeric after

theorem StandsApart.of_suffix
    {value text whole : Text}
    (standsApart : StandsApart value text)
    (isSuffix : text <:+ whole) :
    StandsApart value whole := by
  refine standsApart.imp_right ?_
  rintro ⟨before, after, rfl, ⟨last, isLast, noWord⟩, stops⟩
  obtain ⟨lead, rfl⟩ := isSuffix
  refine ⟨lead ++ before, after, (List.append_assoc ..).symm, ⟨last, ?_, noWord⟩, stops⟩
  rw [List.getLast?_append, isLast]
  rfl

section Value

variable {text value rest : Text}

/-- A value is read behind its quote, if there is one, up to a character that no word
holds. -/
theorem exists_of_attributeValue?
    (found : attributeValue? text = some (value, rest)) :
    ∃ opening after,
      text = opening ++ (value ++ after) ∧
        (∀ char ∈ opening, isAsciiAlphanumeric char = false) ∧
          Stops isAsciiAlphanumeric after := by
  have quoted : ∀ quote inner,
      isAsciiAlphanumeric quote = false →
      quotedValue? quote inner = some (value, rest) →
      ∃ opening after,
        quote :: inner = opening ++ (value ++ after) ∧
          (∀ char ∈ opening, isAsciiAlphanumeric char = false) ∧
            Stops isAsciiAlphanumeric after := by
    intro quote inner noWord isQuoted
    unfold quotedValue? cut at isQuoted
    split at isQuoted
    · rename_i cutValue cutRest isCut
      obtain ⟨rfl, rfl⟩ := Prod.mk.inj (Option.some.inj isQuoted)
      split at isCut
      · cases isCut
      · rename_i head tail isRest
        obtain ⟨rfl, _⟩ := Prod.mk.inj isCut
        have atQuote : Stops (· != quote) (inner.dropWhile (· != quote)) := stops_dropWhile
        rw [isRest, stops_cons] at atQuote
        have isQuote : head = quote := by simpa using atQuote
        refine ⟨[quote], inner.dropWhile (· != quote), ?_, by simp [noWord], ?_⟩
        · rw [List.takeWhile_append_dropWhile, List.singleton_append]
        · rw [isRest, stops_cons, isQuote, noWord]
    · cases isQuoted
  unfold attributeValue? at found
  split at found
  · exact quoted _ _ (by decide) found
  · exact quoted _ _ (by decide) found
  · split at found
    · cases found
    · obtain ⟨rfl, rfl⟩ := Prod.mk.inj (Option.some.inj found)
      refine ⟨[], text.dropWhile isBareValueChar, ?_, by simp, ?_⟩
      · rw [List.takeWhile_append_dropWhile, List.nil_append]
      · exact stops_dropWhile.of_imp fun _ => isBareValueChar_of_isAsciiAlphanumeric

theorem standsApart_of_assignedValue?
    (found : assignedValue? text = some (value, rest)) :
    StandsApart value text := by
  unfold assignedValue? at found
  split at found
  · rename_i remaining isRest
    obtain ⟨opening, after, shape, noWords, stops⟩ := exists_of_attributeValue? found
    -- From the equals sign to the value there are no letters and digits.
    have noWord : ∀ char ∈ '=' :: (remaining.takeWhile isBlank ++ opening),
        isAsciiAlphanumeric char = false := by
      intro char member
      simp only [List.mem_cons, List.mem_append] at member
      rcases member with rfl | inBlanks | inOpening
      · decide
      · exact isAsciiAlphanumeric_of_isBlank (List.mem_takeWhile_imp inBlanks)
      · exact noWords char inOpening
    have behind : '=' :: (remaining.takeWhile isBlank ++ opening) ++ (value ++ after) <:+ text := by
      have sameRest : '=' :: (remaining.takeWhile isBlank ++ opening) ++ (value ++ after) =
          text.dropWhile isBlank := by
        rw [isRest, List.cons_append, List.append_assoc, ← shape, List.takeWhile_append_dropWhile]
      exact sameRest ▸ List.dropWhile_suffix _
    refine StandsApart.of_suffix (.inr ⟨_, after, rfl, ?_, stops⟩) behind
    exact ⟨_, List.getLast?_eq_some_getLast (by simp), noWord _ (List.getLast_mem _)⟩
  · cases found

theorem standsApart_of_readAttribute?
    {entry : Attribute}
    (found : readAttribute? text = some (entry, rest)) :
    StandsApart entry.2 text := by
  unfold readAttribute? at found
  split at found
  · cases found
  · dsimp only at found
    split at found
    · rename_i assigned remaining isAssigned
      obtain ⟨rfl, rfl⟩ := Prod.mk.inj (Option.some.inj found)
      exact (standsApart_of_assignedValue? isAssigned).of_suffix (List.dropWhile_suffix _)
    · obtain ⟨rfl, rfl⟩ := Prod.mk.inj (Option.some.inj found)
      exact .inl rfl

end Value

/-- The values of a tag stand apart in its body. -/
theorem standsApart_of_mem_attributes
    {element : Tag}
    {entry : Attribute}
    (member : entry ∈ element.attributes) :
    StandsApart entry.2 element.body := by
  obtain ⟨text, rest, isSuffix, found⟩ := exists_readAttribute?_eq_some member
  exact (standsApart_of_readAttribute? found).of_suffix isSuffix

end EmailComposer.Markup
