import EmailComposer.Proofs.Token.Apart
import EmailComposer.Proofs.Token.Masked
import EmailComposer.Proofs.Token.Restore

namespace EmailComposer.Token

/-!
# Tokens that come back where they stood

Where every token of a text is a known one, masking, escaping and putting the tokens back
escapes what stands between the tokens and keeps the tokens in their places. The
placeholders are put back one after another; each of them occurs once, because no
placeholder overlaps another and no stem occurs in what was put back before.
-/

open EmailComposer.Text
open EmailComposer.Markup

/-- A body that stands for personal data or, where formatting is kept, begins or ends
formatting. -/
inductive IsKnown (keepsFormatting : Bool) (body : Text) : Prop where
  | personal
      (isName : strip body ∈ personalNames)
  | closer
      (keeps : keepsFormatting = true)
      (kind : Kind)
      (isName : strip body = '/' :: kind.name)
  | opener
      (keeps : keepsFormatting = true)
      (kind : Kind)
      (spec : Text)
      (hasSpec : spec ≠ [])
      (shape : body = kind.name ++ ":" ++ spec)

/-- What a known token keeps between its braces: the specification of an opener is
escaped, everything else stays. -/
def keptBody (body : Text) : Text :=
  match opener? body with
  | some (kind, spec) => kind.name ++ ":" ++ escapeWith specTable spec
  | none => body

/-- A known token as it is put back. -/
def keptToken (body : Text) : Text :=
  braced (keptBody body)

/-- A text cut at its tokens: each token behind the gap in front of it, and what stands
behind the last token. -/
structure TokenCut where
  tokens : List (Text × Text)
  rest : Text
  deriving Repr, DecidableEq

namespace TokenCut

/-- The cut with one more character at the beginning. -/
def prepend (char : Char) : TokenCut → TokenCut
  | ⟨[], rest⟩ => ⟨[], char :: rest⟩
  | ⟨(gap, body) :: tokens, rest⟩ => ⟨(char :: gap, body) :: tokens, rest⟩

/-- The gaps and tokens of the pieces of a text. -/
def ofPieces : List (Piece Text) → TokenCut
  | [] => ⟨[], []⟩
  | .plain char :: pieces => (ofPieces pieces).prepend char
  | .found body :: pieces =>
      ⟨([], body) :: (ofPieces pieces).tokens, (ofPieces pieces).rest⟩

/-- A text cut at its tokens. -/
def ofText (text : Text) : TokenCut :=
  ofPieces (bodyPattern.scan text)

/-- The gaps and tokens one after another, each printed in its own way. -/
def join (onGap onToken : Text → Text) (cut : TokenCut) : Text :=
  (cut.tokens.flatMap fun token => onGap token.1 ++ onToken token.2) ++ onGap cut.rest

variable {onChar : Char → Text} {onToken : Text → Text}

/-- Gaps that are printed character by character. -/
theorem join_prepend
    (char : Char)
    (cut : TokenCut) :
    (cut.prepend char).join (List.flatMap onChar) onToken =
      onChar char ++ cut.join (List.flatMap onChar) onToken := by
  obtain ⟨tokens, rest⟩ := cut
  cases tokens <;> simp [prepend, join]

theorem join_ofText_cons
    {first : Char}
    {rest : Text}
    (missing : readBody? (first :: rest) = none) :
    (ofText (first :: rest)).join (List.flatMap onChar) onToken =
      onChar first ++ (ofText rest).join (List.flatMap onChar) onToken := by
  have scanned : bodyPattern.scan (first :: rest) = .plain first :: bodyPattern.scan rest :=
    Pattern.scan_of_none missing
  rw [ofText, scanned]
  exact join_prepend first _

theorem join_ofText_token
    {onGap : Text → Text}
    (noGap : onGap [] = [])
    {text body rest : Text}
    (found : readBody? text = some (body, rest)) :
    (ofText text).join onGap onToken = onToken body ++ (ofText rest).join onGap onToken := by
  have scanned : bodyPattern.scan text = .found body :: bodyPattern.scan rest :=
    Pattern.scan_of_some found
  rw [ofText, scanned]
  simp [ofText, ofPieces, join, noGap]

/-- A cut text is put together again from its gaps and tokens. -/
theorem join_ofText
    (text : Text) :
    (ofText text).join id braced = text := by
  have printsGaps : (id : Text → Text) = List.flatMap fun char => [char] := by
    funext gap
    simp
  rw [printsGaps]
  induction text using bodyPattern.scan_induction with
  | nil => simp [ofText, ofPieces, join, Pattern.scan_nil]
  | found text body rest isFound inductionHypothesis =>
      rw [join_ofText_token rfl isFound, inductionHypothesis]
      exact (readBody?_eq_some_iff.mp isFound).1.symm
  | plain first rest missing inductionHypothesis =>
      rw [join_ofText_cons missing, inductionHypothesis]
      rfl

end TokenCut

section Known

/-- An opener is the name of a kind, a colon and a specification. -/
theorem opener?_eq_some_iff
    {body spec : Text}
    {kind : Kind} :
    opener? body = some (kind, spec) ↔ spec ≠ [] ∧ body = kind.name ++ ":" ++ spec := by
  constructor
  · intro isOpener
    obtain ⟨found, _, isFound⟩ := List.exists_of_findSome?_eq_some isOpener
    split at isFound
    · rename_i first rest isAfter
      cases isFound
      exact ⟨by simp, after?_eq_some_iff.mp isAfter⟩
    · cases isFound
  · rintro ⟨hasSpec, rfl⟩
    cases spec with
    | nil => exact absurd rfl hasSpec
    | cons first rest => cases kind <;> rfl

/-- A body without a colon is no opener. -/
theorem opener?_of_noColon
    {body : Text}
    (noColon : ':' ∉ body) :
    opener? body = none := by
  rw [Option.eq_none_iff_forall_ne_some]
  rintro ⟨kind, spec⟩ isOpener
  rw [(opener?_eq_some_iff.mp isOpener).2] at noColon
  simp at noColon

variable {keepsFormatting : Bool} {body : Text}

/-- Every known token is recognised, and put back with what it keeps. -/
theorem IsKnown.recognise?_eq
    (isKnown : IsKnown keepsFormatting body) :
    ∃ formatting, recognise? keepsFormatting body = some ⟨formatting, keptToken body⟩ := by
  have noColonInCloser : isCloser (strip body) = true → ':' ∉ body :=
    fun closes => not_mem_of_isCloser closes (by decide) (by decide)
  have noColonInPersonal : strip body ∈ personalNames → ':' ∉ body :=
    fun isName member => IsPersonal.not_mem_markupChars isName member (by decide)
  cases isKnown with
  | personal isName =>
      refine ⟨false, ?_⟩
      simp [recognise?, isName, keptToken, keptBody, opener?_of_noColon (noColonInPersonal isName)]
  | closer keeps kind isName =>
      have notPersonal : strip body ∉ personalNames := by
        rw [isName]
        cases kind <;> decide
      have closes : isCloser (strip body) = true := by
        rw [isName]
        cases kind <;> decide
      refine ⟨true, ?_⟩
      simp [recognise?, notPersonal, keeps, closes, keptToken, keptBody,
        opener?_of_noColon (noColonInCloser closes)]
  | opener keeps kind spec hasSpec shape =>
      have isOpener : opener? body = some (kind, spec) :=
        opener?_eq_some_iff.mpr ⟨hasSpec, shape⟩
      have hasColon : ':' ∈ body := by
        rw [shape]
        simp
      have notPersonal : strip body ∉ personalNames :=
        fun isName => noColonInPersonal isName hasColon
      have notCloser : isCloser (strip body) = false :=
        Bool.eq_false_iff.mpr fun closes => noColonInCloser closes hasColon
      refine ⟨true, ?_⟩
      simp [recognise?, notPersonal, keeps, notCloser, isOpener, keptToken, keptBody]

/-- What a known token keeps holds no stem that its body does not hold. -/
theorem infix_of_infix_keptBody
    {mark : Text}
    (isMark : IsMark mark)
    (isInfix : mark <:+: keptBody body) :
    mark <:+: body := by
  unfold keptBody at isInfix
  split at isInfix
  · rename_i kind spec isOpener
    obtain ⟨_, rfl⟩ := opener?_eq_some_iff.mp isOpener
    have noColon : ':' ∉ mark := isMark.not_mem (by decide)
    have isSafe : ∀ char ∈ mark, specTable char = none :=
      fun char member => specTable_eq_none (isMark.isSafe char member)
    have shape : kind.name ++ ":" ++ escapeWith specTable spec =
        kind.name ++ ':' :: escapeWith specTable spec := by simp
    rw [shape, infix_append_cons_iff noColon isMark.ne_nil] at isInfix
    obtain ⟨others, rfl, _⟩ := isMark
    rcases isInfix with inName | inSpec
    · have noZero : '0' ∉ kind.name := by
        cases kind <;> decide
      exact absurd (inName.mem (by simp)) noZero
    · have inSource := (infix_escapeWith_iff isEntityTable_specTable isSafe).mp inSpec
      exact inSource.trans (List.suffix_append _ _).isInfix
  · exact isInfix

end Known

section Braces

/-- A part without braces is found in front of a token, in its body or behind it. -/
theorem infix_append_braced_iff
    {part before body after : Text}
    (notEmpty : part ≠ [])
    (noBraces : '{' ∉ part ∧ '}' ∉ part) :
    part <:+: before ++ (braced body ++ after) ↔
      part <:+: before ∨ part <:+: body ∨ part <:+: after := by
  rw [braced_append, infix_append_cons_iff noBraces.1 notEmpty,
    infix_cons_iff_of_not_mem noBraces.1 notEmpty, infix_append_cons_iff noBraces.2 notEmpty,
    infix_cons_iff_of_not_mem noBraces.2 notEmpty]

/-- A stem that occurs neither in front of a token nor in the escaped text from the token
on occurs nowhere once the token is put back. -/
theorem not_infix_keptToken
    {stem done body rest : Text}
    (isMark : IsMark stem)
    (fresh : ¬ stem <:+: done ++ escape (braced body ++ rest)) :
    ¬ stem <:+: done ∧ ¬ stem <:+: rest ∧
      ¬ stem <:+: (done ++ keptToken body) ++ escape rest := by
  have notEmpty := isMark.ne_nil
  have noBraces : '{' ∉ stem ∧ '}' ∉ stem :=
    ⟨isMark.not_mem (by decide), isMark.not_mem (by decide)⟩
  have escaped : escape (braced body ++ rest) = braced (escape body) ++ escape rest := by
    simp [braced, escape, escapeWith, escapeChar, contentTable]
  rw [escaped, infix_append_braced_iff notEmpty noBraces, not_or, not_or] at fresh
  obtain ⟨freshDone, freshBody, freshRest⟩ := fresh
  rw [isMark.infix_escape_iff] at freshBody
  refine ⟨freshDone, mt isMark.infix_escape_iff.mpr freshRest, ?_⟩
  rw [List.append_assoc, keptToken, infix_append_braced_iff notEmpty noBraces, not_or, not_or]
  exact ⟨freshDone, mt (infix_of_infix_keptBody isMark) freshBody, freshRest⟩

end Braces

section Masked

variable {source : Text} {keepsFormatting : Bool}

theorem stem_prefix_placeholder
    (stem : Text)
    (formatting : Bool)
    (number : Nat) :
    stem <+: placeholder stem formatting number := by
  obtain ⟨others, shape, _⟩ := exists_placeholder_eq stem formatting number
  exact ⟨others, shape.symm⟩

/-- Where every token is known, a clear text at the beginning of the masked text stood
there before. -/
theorem Clear.prefix_of_prefix_maskFrom
    {word text : Text}
    (clear : Clear word)
    (known : ∀ body ∈ bodyPattern.findAll text, IsKnown keepsFormatting body)
    {count : Nat}
    (isPrefix : word <+: (maskFrom (stemFor source) keepsFormatting count text).1) :
    word <+: text := by
  induction text using bodyPattern.scan_induction generalizing word count with
  | nil => simpa [maskFrom_nil] using isPrefix
  | found text body rest isFound _ =>
      rw [Pattern.findAll_of_some isFound, List.forall_mem_cons] at known
      obtain ⟨formatting, isRecognised⟩ := known.1.recognise?_eq
      obtain ⟨others, shape, _⟩ := isApart_placeholder source formatting count
      rw [maskFrom_recognised isFound isRecognised] at isPrefix
      dsimp only at isPrefix
      rw [shape] at isPrefix
      rw [clear.eq_nil_of_prefix isPrefix]
      exact List.nil_prefix
  | plain first rest missing inductionHypothesis =>
      rw [Pattern.findAll_of_none missing] at known
      rw [maskFrom_cons missing] at isPrefix
      cases word with
      | nil => exact List.nil_prefix
      | cons head tail =>
          obtain ⟨same, tailPrefix⟩ := List.cons_prefix_cons.mp isPrefix
          exact List.cons_prefix_cons.mpr ⟨same, inductionHypothesis clear.2 known tailPrefix⟩

/-- Where every token is known, no placeholder with a smaller number occurs in the masked
text. -/
theorem not_infix_maskFrom
    {text : Text}
    (known : ∀ body ∈ bodyPattern.findAll text, IsKnown keepsFormatting body)
    (fresh : ¬ stemFor source <:+: text)
    (formatting : Bool)
    {number count : Nat}
    (earlier : number < count) :
    ¬ placeholder (stemFor source) formatting number <:+:
      (maskFrom (stemFor source) keepsFormatting count text).1 := by
  induction text using bodyPattern.scan_induction generalizing count with
  | nil =>
      rw [maskFrom_nil]
      exact fun isInfix =>
        (isApart_placeholder source formatting number).ne_nil (List.infix_nil.mp isInfix)
  | found text body rest isFound inductionHypothesis =>
      rw [Pattern.findAll_of_some isFound, List.forall_mem_cons] at known
      obtain ⟨otherFormatting, isRecognised⟩ := known.1.recognise?_eq
      have restFresh : ¬ stemFor source <:+: rest := by
        intro inRest
        rw [(readBody?_eq_some_iff.mp isFound).1] at fresh
        exact fresh (inRest.trans (List.suffix_append _ rest).isInfix)
      rw [maskFrom_recognised isFound isRecognised]
      intro isInfix
      -- An occurrence is the placeholder of this token or does not touch it.
      obtain ⟨letters, shape, _⟩ := isApart_placeholder source formatting number
      obtain ⟨others, otherShape, clear⟩ := isApart_placeholder source otherFormatting count
      dsimp only at isInfix
      rw [otherShape, List.cons_append, List.infix_cons_iff, ← List.cons_append, ← otherShape]
        at isInfix
      rcases isInfix with atStart | behind
      · exact absurd (number_eq_of_placeholder_start atStart) (by omega)
      · rw [shape] at behind
        have inRest := clear.infix_of_infix_append behind
        rw [← shape] at inRest
        exact inductionHypothesis known.2 restFresh (by omega) inRest
  | plain first rest missing inductionHypothesis =>
      rw [Pattern.findAll_of_none missing] at known
      have restFresh : ¬ stemFor source <:+: rest :=
        fun inRest => fresh (inRest.trans (List.suffix_cons first rest).isInfix)
      rw [maskFrom_cons missing]
      intro isInfix
      rcases List.infix_cons_iff.mp isInfix with atStart | behind
      · -- Behind its zero the placeholder is clear, so it would stand in the text.
        obtain ⟨letters, shape, clear⟩ := isApart_placeholder source formatting number
        rw [shape] at atStart
        obtain ⟨same, onward⟩ := List.cons_prefix_cons.mp atStart
        have inText := List.cons_prefix_cons.mpr
          ⟨same, clear.prefix_of_prefix_maskFrom known onward⟩
        rw [← shape] at inText
        exact fresh ((stem_prefix_placeholder _ _ _).trans inText).isInfix
      · exact inductionHypothesis known restFresh earlier behind

/-- Where every token is known, putting the tokens back into the escaped masked text gives
the escaped gaps with the tokens between them, behind whatever was finished before. -/
theorem restore_maskFrom
    {text : Text}
    (known : ∀ body ∈ bodyPattern.findAll text, IsKnown keepsFormatting body)
    {done : Text}
    (fresh : ¬ stemFor source <:+: done ++ escape text)
    (count : Nat) :
    restore (done ++ escape (maskFrom (stemFor source) keepsFormatting count text).1)
        (maskFrom (stemFor source) keepsFormatting count text).2.1 =
      done ++ (TokenCut.ofText text).join escape keptToken := by
  have isMark := isMark_stemFor source
  induction text using bodyPattern.scan_induction generalizing done count with
  | nil => simp [maskFrom_nil, restore, TokenCut.ofText, TokenCut.ofPieces, TokenCut.join,
      Pattern.scan_nil, escape, escapeWith]
  | found text body rest isFound inductionHypothesis =>
      rw [Pattern.findAll_of_some isFound, List.forall_mem_cons] at known
      obtain ⟨formatting, isRecognised⟩ := known.1.recognise?_eq
      rw [(readBody?_eq_some_iff.mp isFound).1] at fresh
      obtain ⟨freshDone, freshRest, onward⟩ := not_infix_keptToken isMark fresh
      -- The placeholder of this token occurs neither in what is finished nor further on.
      have isApart := isApart_placeholder source formatting count
      have isPlaceholderMark := isMark.placeholder formatting count
      have missingBefore : ¬ placeholder (stemFor source) formatting count <:+: done :=
        fun isInfix => freshDone ((stem_prefix_placeholder _ _ _).isInfix.trans isInfix)
      have missingBehind : ¬ placeholder (stemFor source) formatting count <:+:
          escape (maskFrom (stemFor source) keepsFormatting (count + 1) rest).1 :=
        mt isPlaceholderMark.infix_escape_iff.mp
          (not_infix_maskFrom known.2 freshRest formatting (by omega))
      have noGap : escape [] = [] := rfl
      rw [maskFrom_recognised isFound isRecognised, TokenCut.join_ofText_token noGap isFound,
        restore_cons]
      dsimp only
      rw [escape_append, escape_eq_self isPlaceholderMark.isSafe,
        isApart.replaceAll_append missingBefore,
        replaceAll_eq_self isApart.ne_nil missingBehind, ← List.append_assoc, ← List.append_assoc]
      exact inductionHypothesis known.2 onward (count + 1)
  | plain first rest missing inductionHypothesis =>
      rw [Pattern.findAll_of_none missing] at known
      have onward : ¬ stemFor source <:+:
          (done ++ escapeChar contentTable first) ++ escape rest := by
        rwa [List.append_assoc, ← escape_cons]
      have restored := inductionHypothesis known onward count
      have joined : (TokenCut.ofText (first :: rest)).join escape keptToken =
          escapeChar contentTable first ++ (TokenCut.ofText rest).join escape keptToken :=
        TokenCut.join_ofText_cons missing
      rw [maskFrom_cons missing, joined, escape_cons, ← List.append_assoc, ← List.append_assoc]
      exact restored

/-- A text whose tokens are all known comes back with its gaps escaped and its tokens in
their places. -/
theorem restore_escape_mask
    {text : Text}
    (known : ∀ body ∈ bodyPattern.findAll text, IsKnown keepsFormatting body) :
    restore (escape (mask text keepsFormatting).text) (mask text keepsFormatting).placeholders =
      (TokenCut.ofText text).join escape keptToken := by
  have fresh : ¬ stemFor text <:+: [] ++ escape text :=
    mt (isMark_stemFor text).infix_escape_iff.mp (not_infix_stemFor text)
  exact restore_maskFrom known fresh 0

end Masked

end EmailComposer.Token
