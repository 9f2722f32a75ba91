import EmailComposer.Proofs.Markup.Replace
import EmailComposer.Proofs.Token.Mask
import EmailComposer.Proofs.Url.Check

namespace EmailComposer.Token

/-!
# Tokens put back

Putting tokens back into sanitized markup puts them back into every text and into every
attribute value of it. Values hold no formatting token; in them personal data may be put
back before or after escaping, and the protocol stays allowed.
-/

open EmailComposer.Text
open EmailComposer.Markup

theorem restore_cons
    (text : Text)
    (entry : Placeholder)
    (rest : List Placeholder) :
    restore text (entry :: rest) = restore (replaceAll entry.1 entry.2 text) rest :=
  rfl

section Entry

variable {marker : Text} {entry : Placeholder} (isPlaceholder : IsPlaceholder marker entry)

include isPlaceholder

theorem IsPlaceholder.noBracket :
    ∀ char ∈ entry.2, isNoBracket char = true := by
  obtain ⟨body, shape, noBracket⟩ := isPlaceholder.kept
  intro char member
  rw [shape] at member
  rcases mem_braced.mp member with rfl | inBody | rfl
  · decide
  · exact noBracket char inBody
  · decide

theorem IsPlaceholder.kept_ne_nil :
    entry.2 ≠ [] := by
  obtain ⟨body, shape, _⟩ := isPlaceholder.kept
  simp [shape, braced]

end Entry

section Restored

variable {marker : Text} {entries : List Placeholder}
  (arePlaceholders : ∀ entry ∈ entries, IsPlaceholder marker entry)

include arePlaceholders

/-- Every character comes from the text or from a token. -/
theorem isNoBracket_restore
    {text : Text}
    (noBracket : ∀ char ∈ text, isNoBracket char = true) :
    ∀ char ∈ restore text entries, isNoBracket char = true := by
  induction entries generalizing text with
  | nil => exact noBracket
  | cons entry rest inductionHypothesis =>
      obtain ⟨isPlaceholder, restPlaceholders⟩ := List.forall_mem_cons.mp arePlaceholders
      refine inductionHypothesis restPlaceholders ?_
      intro char member
      rcases mem_replaceAll isPlaceholder.target.ne_nil member with inText | inKept
      · exact noBracket char inText
      · exact isPlaceholder.noBracket char inKept

/-- Putting tokens back into markup puts them back into every segment. -/
theorem segments_restore
    {html : Text}
    (readable : ∀ segment ∈ segments html, segment.Readable)
    (noZero : ∀ element ∈ tags html, '0' ∉ element.spelling) :
    segments (restore html entries) =
      (segments html).map (Segment.mapText (restore · entries)) := by
  induction entries generalizing html with
  | nil =>
      have kept : ∀ segment, Segment.mapText (restore · []) segment = segment := by
        intro segment
        cases segment <;> rfl
      rw [List.map_congr_left fun segment _ => kept segment, List.map_id']
      rfl
  | cons entry rest inductionHypothesis =>
      obtain ⟨isPlaceholder, restPlaceholders⟩ := List.forall_mem_cons.mp arePlaceholders
      obtain ⟨others, target, alphanumeric⟩ := isPlaceholder.target
      have noBracket := isPlaceholder.noBracket
      have step := segments_replaceAll
        (fun char member => isNoBracket_of_isAsciiAlphanumeric (alphanumeric char member))
        noBracket isPlaceholder.kept_ne_nil readable noZero
      rw [← target] at step
      -- The invariant: segments stay readable, and names of tags hold no zero.
      have stepReadable : ∀ segment ∈ segments (replaceAll entry.1 entry.2 html),
          segment.Readable := by
        intro segment member
        rw [step] at member
        obtain ⟨source, isSource, rfl⟩ := List.mem_map.mp member
        rw [target]
        exact readable_replaceAll noBracket (readable source isSource)
      have stepNoZero : ∀ element ∈ tags (replaceAll entry.1 entry.2 html),
          '0' ∉ element.spelling := by
        intro element member
        rw [mem_tags, step] at member
        obtain ⟨source, isSource, same⟩ := List.mem_map.mp member
        cases source with
        | text raw => cases same
        | tag other =>
            cases same
            exact noZero other (mem_tags.mpr isSource)
      have onward := inductionHypothesis restPlaceholders stepReadable stepNoZero
      rw [restore_cons, onward, step, List.map_map]
      refine List.map_congr_left fun segment _ => ?_
      cases segment <;> rfl

/-- Putting tokens back into a body in normal form puts them back into the values. -/
theorem restore_body
    {view : TagView}
    (noZero : ∀ entry ∈ view.attributes, '0' ∉ entry.1) :
    restore view.body entries = (view.mapValues (restore · entries)).body := by
  induction entries generalizing view with
  | nil => simp [restore, TagView.mapValues]
  | cons entry rest inductionHypothesis =>
      obtain ⟨isPlaceholder, restPlaceholders⟩ := List.forall_mem_cons.mp arePlaceholders
      obtain ⟨others, target, alphanumeric⟩ := isPlaceholder.target
      have noQuote : '"' ∉ others := by
        intro member
        exact absurd (alphanumeric '"' member) (by decide)
      have step : replaceAll ('0' :: others) entry.2 view.body = _ :=
        replaceAll_body noZero noQuote
      rw [← target] at step
      have stepNoZero : ∀ changed ∈ (view.mapValues (replaceAll entry.1 entry.2)).attributes,
          '0' ∉ changed.1 := by
        intro changed member
        obtain ⟨source, isSource, rfl⟩ := List.mem_map.mp member
        exact noZero source isSource
      rw [restore_cons, step, inductionHypothesis restPlaceholders stepNoZero]
      simp [TagView.mapValues, restore_cons, Function.comp_def]

end Restored

section Value

variable {marker : Text} {entry : Placeholder} (isMarker : IsMark marker)
  (isPlaceholder : IsPlaceholder marker entry)

include isMarker isPlaceholder

/-- In a value without formatting placeholders a token is put back before or after
escaping, and no formatting placeholder comes up. -/
theorem replaceAll_escape_of_isPlaceholder
    {value : Text}
    (noMarker : ¬ marker <:+: value) :
    replaceAll entry.1 entry.2 (escape value) = escape (replaceAll entry.1 entry.2 value) ∧
      ¬ marker <:+: replaceAll entry.1 entry.2 value := by
  obtain ⟨others, target, alphanumeric⟩ := isPlaceholder.target
  have isSafe := isPlaceholder.target.isSafe
  rcases isPlaceholder.sort with isFormatting | ⟨body, kept, isPersonal⟩
  · have missing : ¬ entry.1 <:+: value :=
      fun isInfix => noMarker (isFormatting.isInfix.trans isInfix)
    have escapedMissing : ¬ entry.1 <:+: escape value :=
      mt isPlaceholder.target.infix_escape_iff.mp missing
    rw [replaceAll_eq_self isPlaceholder.target.ne_nil missing,
      replaceAll_eq_self isPlaceholder.target.ne_nil escapedMissing]
    exact ⟨rfl, noMarker⟩
  · -- Personal data has nothing to escape, and no zero that could begin a marker.
    have keptChars : ∀ char ∈ entry.2, char ≠ '0' ∧ char ∉ unsafeChars := by
      intro char member
      rw [kept] at member
      rcases mem_braced.mp member with rfl | inBody | rfl
      · decide
      · have isPlain := isPersonal.not_mem_markupChars inBody
        simp only [markupChars, List.mem_cons, not_or] at isPlain
        exact ⟨isPlain.1, isPlain.2.2.2.2⟩
      · decide
    refine ⟨?_, fun isInfix => noMarker ?_⟩
    · rw [target] at isSafe ⊢
      exact replaceAll_escape isSafe (fun char member => (keptChars char member).2) value
    · have zeroApart : '0' ∉ entry.2 := fun member => (keptChars '0' member).1 rfl
      have braceApart : '{' ∉ marker := isMarker.not_mem (by decide)
      rw [kept] at isInfix zeroApart
      obtain ⟨markerRest, rfl, _⟩ := isMarker
      exact infix_of_infix_replaceAll isPlaceholder.target.ne_nil zeroApart braceApart isInfix

end Value

section Values

variable {marker : Text} {entries : List Placeholder} (isMarker : IsMark marker)
  (arePlaceholders : ∀ entry ∈ entries, IsPlaceholder marker entry)

include isMarker arePlaceholders

/-- In a value without formatting placeholders the tokens are put back before or after
escaping. -/
theorem restore_escape
    {value : Text}
    (noMarker : ¬ marker <:+: value) :
    restore (escape value) entries = escape (restore value entries) := by
  induction entries generalizing value with
  | nil => rfl
  | cons entry rest inductionHypothesis =>
      obtain ⟨isPlaceholder, restPlaceholders⟩ := List.forall_mem_cons.mp arePlaceholders
      obtain ⟨same, stillNoMarker⟩ :=
        replaceAll_escape_of_isPlaceholder isMarker isPlaceholder noMarker
      rw [restore_cons, restore_cons, same]
      exact inductionHypothesis restPlaceholders stillNoMarker

omit isMarker in
theorem hasAllowedProtocol_restore
    {value : Text}
    (allowed : Url.hasAllowedProtocol value = true) :
    Url.hasAllowedProtocol (restore value entries) = true := by
  induction entries generalizing value with
  | nil => exact allowed
  | cons entry rest inductionHypothesis =>
      obtain ⟨isPlaceholder, restPlaceholders⟩ := List.forall_mem_cons.mp arePlaceholders
      obtain ⟨others, target, _⟩ := isPlaceholder.target
      have stillAllowed : Url.hasAllowedProtocol (replaceAll entry.1 entry.2 value) = true := by
        rw [target]
        exact Url.hasAllowedProtocol_replaceAll allowed
      exact inductionHypothesis restPlaceholders stillAllowed

end Values

end EmailComposer.Token
