import Mathlib.Data.List.Pairwise
import EmailComposer.Proofs.Token.Kept
import EmailComposer.Proofs.Token.Occurrence

namespace EmailComposer.Token

/-!
# The marks of a masked text

Masking a text weaves its plain characters with the placeholders of its known tokens. The
placeholders are numbered, so each is put once, and they are told apart wherever they stand.
Putting the tokens back into a weave puts each of them in the place of its mark, as long as
no placeholder is spelled out by typed characters.
-/

open EmailComposer.Text
open EmailComposer.Markup

section Numbers

variable {stem : Text} {keepsFormatting : Bool} {count : Nat} {pieces : List (Piece Text)}

/-- Neither of two placeholders begins where the other one does. -/
def AreToldApart (first second : Placeholder) : Prop :=
  ∀ rest, ¬ first.1 <+: second.1 ++ rest ∧ ¬ second.1 <+: first.1 ++ rest

instance : Std.Symm AreToldApart where
  symm _ _ areToldApart rest := (areToldApart rest).symm

/-- The numbers tell the placeholders of a text apart. -/
theorem pairwise_areToldApart_maskPieces :
    (maskPieces stem keepsFormatting count pieces).2.1.Pairwise AreToldApart := by
  induction pieces generalizing count with
  | nil => exact List.Pairwise.nil
  | cons piece rest inductionHypothesis =>
      cases piece with
      | plain char => exact inductionHypothesis
      | found body =>
          cases isRecognised : recognise? keepsFormatting body with
          | none =>
              simp only [maskPieces, isRecognised]
              exact inductionHypothesis
          | some recognised =>
              simp only [maskPieces, isRecognised]
              refine List.pairwise_cons.mpr ⟨fun other member behind => ?_, inductionHypothesis⟩
              obtain ⟨_, _, number, _, _, isLater, rfl⟩ := exists_of_mem_maskPieces member
              exact ⟨fun isPrefix => absurd (number_eq_of_placeholder_start isPrefix) (by omega),
                fun isPrefix => absurd (number_eq_of_placeholder_start isPrefix) (by omega)⟩

end Numbers

section Mask

variable {text : Text} {keepsFormatting : Bool} {entry other : Placeholder}

/-- A placeholder of a text that another begins with is that other. -/
theorem eq_of_prefix_of_mem_mask
    (member : entry ∈ (mask text keepsFormatting).placeholders)
    (otherMember : other ∈ (mask text keepsFormatting).placeholders)
    {rest : Text}
    (isPrefix : entry.1 <+: other.1 ++ rest) :
    entry = other := by
  by_contra different
  have areToldApart := pairwise_areToldApart_maskPieces.forall member otherMember different
  exact (areToldApart rest).1 isPrefix

theorem nodup_placeholders
    (text : Text)
    (keepsFormatting : Bool) :
    (mask text keepsFormatting).placeholders.Nodup :=
  pairwise_areToldApart_maskPieces.imp fun apart same =>
    (apart []).1 (by rw [same, List.append_nil])

theorem isApart_of_mem_mask
    (member : entry ∈ (mask text keepsFormatting).placeholders) :
    IsApart entry.1 := by
  obtain ⟨_, recognised, number, _, _, _, rfl⟩ := exists_of_mem_maskPieces member
  exact isApart_placeholder text recognised.formatting number

theorem isMark_of_mem_mask
    (member : entry ∈ (mask text keepsFormatting).placeholders) :
    IsMark entry.1 :=
  (isPlaceholder_mask text keepsFormatting entry member).target

theorem letter_mem_of_mem_mask
    (member : entry ∈ (mask text keepsFormatting).placeholders) :
    'k' ∈ entry.1 := by
  obtain ⟨count, shape, _⟩ := exists_freeStem_eq text stemStart (text.length + 1)
  refine (stem_prefix_of_mem_mask text keepsFormatting entry member).subset ?_
  rw [stemFor, shape]
  exact List.mem_append_left _ (by decide)

end Mask

namespace Weave

/-- The weave of the pieces of a text, with placeholders numbered from `count` on; unknown
tokens leave no strand. -/
def ofPieces (stem : Text) (keepsFormatting : Bool) : Nat → List (Piece Text) → Weave
  | _, [] => []
  | count, .plain char :: rest => .typed char :: ofPieces stem keepsFormatting count rest
  | count, .found body :: rest =>
      match recognise? keepsFormatting body with
      | some recognised =>
          .mark (placeholder stem recognised.formatting count, recognised.kept) ::
            ofPieces stem keepsFormatting (count + 1) rest
      | none => ofPieces stem keepsFormatting count rest

/-- A masked text, strand by strand. -/
def ofText (text : Text) (keepsFormatting : Bool) : Weave :=
  ofPieces (stemFor text) keepsFormatting 0 (bodyPattern.scan text)

section OfPieces

variable (stem : Text) (keepsFormatting : Bool) (count : Nat) (pieces : List (Piece Text))

theorem spelling_and_marks_ofPieces :
    (ofPieces stem keepsFormatting count pieces).spelling =
        (maskPieces stem keepsFormatting count pieces).1 ∧
      (ofPieces stem keepsFormatting count pieces).marks =
        (maskPieces stem keepsFormatting count pieces).2.1 := by
  induction pieces generalizing count with
  | nil => exact ⟨rfl, rfl⟩
  | cons piece rest inductionHypothesis =>
      cases piece with
      | plain char =>
          obtain ⟨sameText, sameMarks⟩ := inductionHypothesis count
          exact ⟨congrArg (char :: ·) sameText, sameMarks⟩
      | found body =>
          cases isRecognised : recognise? keepsFormatting body with
          | none =>
              simp only [ofPieces, maskPieces, isRecognised]
              exact inductionHypothesis count
          | some recognised =>
              obtain ⟨sameText, sameMarks⟩ := inductionHypothesis (count + 1)
              simp only [ofPieces, maskPieces, isRecognised]
              exact ⟨congrArg (placeholder stem recognised.formatting count ++ ·) sameText,
                congrArg (_ :: ·) sameMarks⟩

theorem isOriginal_of_mem_ofPieces :
    ∀ strand ∈ ofPieces stem keepsFormatting count pieces, strand.isOriginal = true := by
  induction pieces generalizing count with
  | nil => exact fun _ member => nomatch member
  | cons piece rest inductionHypothesis =>
      cases piece with
      | plain char => exact List.forall_mem_cons.mpr ⟨rfl, inductionHypothesis count⟩
      | found body =>
          cases isRecognised : recognise? keepsFormatting body with
          | none =>
              simp only [ofPieces, isRecognised]
              exact inductionHypothesis count
          | some recognised =>
              simp only [ofPieces, isRecognised]
              exact List.forall_mem_cons.mpr ⟨rfl, inductionHypothesis (count + 1)⟩

end OfPieces

variable {text : Text} {keepsFormatting : Bool} {weave : Weave} {entry : Placeholder}

theorem spelling_ofText
    (text : Text)
    (keepsFormatting : Bool) :
    (ofText text keepsFormatting).spelling = (mask text keepsFormatting).text :=
  (spelling_and_marks_ofPieces _ _ _ _).1

theorem marks_ofText
    (text : Text)
    (keepsFormatting : Bool) :
    (ofText text keepsFormatting).marks = (mask text keepsFormatting).placeholders :=
  (spelling_and_marks_ofPieces _ _ _ _).2

theorem isFine_ofText
    (text : Text)
    (keepsFormatting : Bool) :
    (ofText text keepsFormatting).IsFine where
  marks entry member := by
    rw [← mem_marks, marks_ofText] at member
    exact isMark_of_mem_mask member
  made made member := by
    have isOriginal := isOriginal_of_mem_ofPieces _ _ _ _ _ member
    cases isOriginal

/-- A weave of typed characters, made texts and placeholders of a masked text. -/
structure IsMasked (text : Text) (keepsFormatting : Bool) (weave : Weave) : Prop where
  marks : ∀ entry, .mark entry ∈ weave → entry ∈ (mask text keepsFormatting).placeholders
  made : ∀ made, .made made ∈ weave → IsMade made

/-- The placeholders of a masked text are told apart among made texts. -/
theorem IsMasked.tellsApart
    (isMasked : weave.IsMasked text keepsFormatting)
    (member : entry ∈ (mask text keepsFormatting).placeholders) :
    weave.TellsApart entry where
  made made isStrand := by
    have isMade := isMasked.made made isStrand
    exact ⟨isMade.starts, isMade.ends,
      fun isInfix => isMade.stemless (isInfix.subset (letter_mem_of_mem_mask member))⟩
  apart other isStrand := isApart_of_mem_mask (isMasked.marks other isStrand)
  same other isStrand _ isPrefix :=
    (eq_of_prefix_of_mem_mask member (isMasked.marks other isStrand) isPrefix).symm

theorem IsMasked.standsAtMark_iff
    (isMasked : weave.IsMasked text keepsFormatting)
    (member : entry ∈ (mask text keepsFormatting).placeholders) :
    weave.StandsAtMark entry ↔ ¬ weave.SpellsOut entry :=
  (isMasked.tellsApart member).standsAtMark_iff (isMark_of_mem_mask member)
    (isApart_of_mem_mask member)

section IsCut

variable (isCut : weave.IsCut IsMade (ofText text keepsFormatting))

include isCut

theorem IsCut.isMasked :
    weave.IsMasked text keepsFormatting where
  marks entry member := by
    rw [← marks_ofText]
    exact isCut.marks.subset (mem_marks.mpr member)
  made := isCut.made

/-- In what sanitizing leaves of a masked text every placeholder is put at most once. -/
theorem IsCut.nodup_marks :
    weave.marks.Nodup := by
  have once := nodup_placeholders text keepsFormatting
  rw [← marks_ofText] at once
  exact once.sublist isCut.marks

/-- A placeholder that typed characters spell out was typed letter by letter, in this
order. -/
theorem IsCut.sublist_of_spellsOut
    (spellsOut : weave.SpellsOut entry) :
    entry.1.Sublist (ofText text keepsFormatting).typed := by
  rw [← typed_map_typed entry.1]
  exact (spellsOut.sublist.filterMap Strand.typed?).trans isCut.typed

end IsCut

end Weave

end EmailComposer.Token
