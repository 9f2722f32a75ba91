import EmailComposer.Proofs.Token.Opener

namespace EmailComposer.Token

/-!
# Openers in masked text

Masking leaves no opener where it stands in the text. One comes up only where a token is
cut out between the two braces that close it; between double braces and the next closing
brace masked text is what the text was, so no placeholder stands there.
-/

open EmailComposer.Text
open EmailComposer.Markup

/-- A token is a run of characters other than closing braces in double braces. -/
theorem readBody?_eq_some_iff
    {text body rest : Text} :
    readBody? text = some (body, rest) ↔
      text = braced body ++ rest ∧ body ≠ [] ∧ ∀ char ∈ body, isInside char = true := by
  have sameClass : (fun char => char != '}') = isInside := rfl
  constructor
  · intro found
    unfold readBody? at found
    rw [sameClass] at found
    split at found
    · cases found
    · rename_i inner isInner
      split at found
      · cases found
      · rename_i notEmpty
        obtain ⟨remaining, isRest, same⟩ := Option.map_eq_some_iff.mp found
        obtain ⟨rfl, rfl⟩ := Prod.mk.inj same
        refine ⟨?_, notEmpty, fun _ => List.mem_takeWhile_imp⟩
        have innerShape : inner =
            inner.takeWhile isInside ++ '}' :: '}' :: remaining := by
          have tailShape : inner.dropWhile isInside = '}' :: '}' :: remaining :=
            after?_eq_some_iff.mp isRest
          rw [← tailShape, List.takeWhile_append_dropWhile]
        rw [after?_eq_some_iff.mp isInner, braced_append, ← innerShape]
        rfl
  · rintro ⟨rfl, notEmpty, inside⟩
    have stops : Stops isInside ('}' :: '}' :: rest) := stops_cons.mpr (by decide)
    have opened : after? "\x7b\x7b" ('{' :: '{' :: (body ++ '}' :: '}' :: rest)) =
        some (body ++ '}' :: '}' :: rest) :=
      after?_eq_some_iff.mpr rfl
    have closed : after? "\x7d\x7d" ('}' :: '}' :: rest) = some rest :=
      after?_eq_some_iff.mpr rfl
    rw [braced_append, readBody?, opened, sameClass]
    simp only [takeWhile_run_append inside stops, dropWhile_run_append inside stops, closed]
    rfl

section Scan

variable {stem : Text} {keepsFormatting : Bool}

/-- The masked form of a text, its placeholders numbered from `count` on. -/
def maskFrom (stem : Text) (keepsFormatting : Bool) (count : Nat) (text : Text) :
    Text × List Placeholder × List DroppedItem :=
  maskPieces stem keepsFormatting count (bodyPattern.scan text)

theorem maskFrom_nil
    (count : Nat) :
    maskFrom stem keepsFormatting count [] = ([], [], []) := by
  simp [maskFrom, Pattern.scan_nil, maskPieces]

theorem maskFrom_cons
    {first : Char}
    {rest : Text}
    (missing : readBody? (first :: rest) = none)
    (count : Nat) :
    maskFrom stem keepsFormatting count (first :: rest) =
      (first :: (maskFrom stem keepsFormatting count rest).1,
        (maskFrom stem keepsFormatting count rest).2) := by
  have scanned : bodyPattern.scan (first :: rest) = .plain first :: bodyPattern.scan rest :=
    Pattern.scan_of_none missing
  rw [maskFrom, scanned]
  rfl

theorem maskFrom_recognised
    {text body rest : Text}
    {recognised : Recognised}
    (found : readBody? text = some (body, rest))
    (isRecognised : recognise? keepsFormatting body = some recognised)
    (count : Nat) :
    maskFrom stem keepsFormatting count text =
      (placeholder stem recognised.formatting count ++
          (maskFrom stem keepsFormatting (count + 1) rest).1,
        (placeholder stem recognised.formatting count, recognised.kept) ::
            (maskFrom stem keepsFormatting (count + 1) rest).2.1,
        (maskFrom stem keepsFormatting (count + 1) rest).2.2) := by
  have scanned : bodyPattern.scan text = .found body :: bodyPattern.scan rest :=
    Pattern.scan_of_some found
  rw [maskFrom, scanned]
  simp only [maskPieces, isRecognised]
  rfl

theorem maskFrom_unknown
    {text body rest : Text}
    (found : readBody? text = some (body, rest))
    (isUnknown : recognise? keepsFormatting body = none)
    (count : Nat) :
    maskFrom stem keepsFormatting count text =
      ((maskFrom stem keepsFormatting count rest).1,
        (maskFrom stem keepsFormatting count rest).2.1,
        ⟨.token, braced body⟩ :: (maskFrom stem keepsFormatting count rest).2.2) := by
  have scanned : bodyPattern.scan text = .found body :: bodyPattern.scan rest :=
    Pattern.scan_of_some found
  rw [maskFrom, scanned]
  simp only [maskPieces, isUnknown]
  rfl

/-- A character of a masked text comes from the text or from a placeholder. -/
theorem mem_maskFrom
    (isMark : IsMark stem)
    {text : Text}
    {count : Nat}
    {char : Char}
    (member : char ∈ (maskFrom stem keepsFormatting count text).1) :
    char ∈ text ∨ isAsciiAlphanumeric char = true := by
  induction text using bodyPattern.scan_induction generalizing count with
  | nil => simp [maskFrom_nil] at member
  | found text body rest isFound inductionHypothesis =>
      have fromRest : char ∈ rest → char ∈ text := by
        intro inRest
        rw [(readBody?_eq_some_iff.mp isFound).1]
        exact List.mem_append_right _ inRest
      cases isRecognised : recognise? keepsFormatting body with
      | some recognised =>
          rw [maskFrom_recognised isFound isRecognised] at member
          rcases List.mem_append.mp member with inPlaceholder | inRest
          · exact .inr ((isMark.placeholder _ _).isAsciiAlphanumeric_of_mem char inPlaceholder)
          · exact (inductionHypothesis inRest).imp_left fromRest
      | none =>
          rw [maskFrom_unknown isFound isRecognised] at member
          exact (inductionHypothesis member).imp_left fromRest
  | plain first rest missing inductionHypothesis =>
      rw [maskFrom_cons missing] at member
      rcases List.mem_cons.mp member with rfl | inRest
      · exact .inl (by simp)
      · exact (inductionHypothesis inRest).imp_left (List.mem_cons_of_mem first)

/-- A token that masking cuts out is a part of the text. -/
theorem exists_of_mem_dropped_maskFrom
    {text : Text}
    {count : Nat}
    {item : DroppedItem}
    (member : item ∈ (maskFrom stem keepsFormatting count text).2.2) :
    ∃ body, item = ⟨.token, braced body⟩ ∧ braced body <:+: text := by
  induction text using bodyPattern.scan_induction generalizing count with
  | nil => simp [maskFrom_nil] at member
  | found text body rest isFound inductionHypothesis =>
      have shape := (readBody?_eq_some_iff.mp isFound).1
      have behind : rest <:+: text := shape ▸ (List.suffix_append _ rest).isInfix
      cases isRecognised : recognise? keepsFormatting body with
      | some recognised =>
          rw [maskFrom_recognised isFound isRecognised] at member
          obtain ⟨other, same, isInfix⟩ := inductionHypothesis member
          exact ⟨other, same, isInfix.trans behind⟩
      | none =>
          rw [maskFrom_unknown isFound isRecognised] at member
          rcases List.mem_cons.mp member with same | inRest
          · exact ⟨body, same, shape ▸ (List.prefix_append _ rest).isInfix⟩
          · obtain ⟨other, same, isInfix⟩ := inductionHypothesis inRest
            exact ⟨other, same, isInfix.trans behind⟩
  | plain first rest missing inductionHypothesis =>
      rw [maskFrom_cons missing] at member
      obtain ⟨other, same, isInfix⟩ := inductionHypothesis member
      exact ⟨other, same, isInfix.trans (List.suffix_cons first rest).isInfix⟩

/-- A text in which no token is found is not changed by masking. -/
theorem maskFrom_of_nothing_masked
    {text : Text}
    {count : Nat}
    (noPlaceholder : (maskFrom stem keepsFormatting count text).2.1 = [])
    (nothingDropped : (maskFrom stem keepsFormatting count text).2.2 = []) :
    (maskFrom stem keepsFormatting count text).1 = text := by
  induction text using bodyPattern.scan_induction generalizing count with
  | nil => rw [maskFrom_nil]
  | found text body rest isFound inductionHypothesis =>
      cases isRecognised : recognise? keepsFormatting body with
      | some recognised =>
          rw [maskFrom_recognised isFound isRecognised] at noPlaceholder
          cases noPlaceholder
      | none =>
          rw [maskFrom_unknown isFound isRecognised] at nothingDropped
          cases nothingDropped
  | plain first rest missing inductionHypothesis =>
      rw [maskFrom_cons missing] at noPlaceholder nothingDropped ⊢
      rw [inductionHypothesis noPlaceholder nothingDropped]

/-- A run in front of anything but two closing braces is no part of a token. -/
theorem maskFrom_run
    {run tail : Text}
    (inside : ∀ char ∈ run, isInside char = true)
    (stops : Stops isInside tail)
    (notClosed : ¬ ['}', '}'] <+: tail)
    (count : Nat) :
    maskFrom stem keepsFormatting count (run ++ tail) =
      (run ++ (maskFrom stem keepsFormatting count tail).1,
        (maskFrom stem keepsFormatting count tail).2) := by
  induction run with
  | nil => rfl
  | cons first others inductionHypothesis =>
      have othersInside : ∀ char ∈ others, isInside char = true :=
        fun char member => inside char (by simp [member])
      have missing : readBody? (first :: (others ++ tail)) = none := by
        rw [Option.eq_none_iff_forall_ne_some]
        rintro ⟨body, rest⟩ found
        obtain ⟨shape, _, bodyInside⟩ := readBody?_eq_some_iff.mp found
        have sameRun : (first :: others) ++ tail = ('{' :: '{' :: body) ++ '}' :: '}' :: rest := by
          rw [List.cons_append, shape, braced_append]
          rfl
        have bracedInside : ∀ char ∈ '{' :: '{' :: body, isInside char = true := by
          intro char member
          simp only [List.mem_cons] at member
          rcases member with rfl | rfl | inBody
          · decide
          · decide
          · exact bodyInside char inBody
        have sameTail := (run_append_inj sameRun inside stops bracedInside
          (stops_cons.mpr (by decide))).2
        exact notClosed ⟨rest, sameTail.symm⟩
      rw [List.cons_append, maskFrom_cons missing, inductionHypothesis othersInside]
      rfl

/-- A text that begins with a closing brace, or with nothing, begins so when masked. -/
theorem stops_maskFrom
    {tail : Text}
    (stops : Stops isInside tail)
    (count : Nat) :
    Stops isInside (maskFrom stem keepsFormatting count tail).1 := by
  cases tail with
  | nil => simpa [maskFrom_nil] using stops
  | cons first rest =>
      have isCloser : first = '}' := by
        simpa [isInside] using stops_cons.mp stops
      have missing : readBody? (first :: rest) = none := by
        rw [isCloser]
        rfl
      rw [maskFrom_cons missing]
      exact stops

/-- Two braces of a masked text that begin no token of the text stand side by side in the
text too, and the run behind them is kept. -/
theorem exists_run_of_maskFrom
    {rest after : Text}
    {count : Nat}
    (missing : readBody? ('{' :: rest) = none)
    (same : (maskFrom stem keepsFormatting count rest).1 = '{' :: after) :
    ∃ run tail,
      rest = '{' :: (run ++ tail) ∧ (∀ char ∈ run, isInside char = true) ∧
        Stops isInside tail ∧ (run = [] ∨ ¬ ['}', '}'] <+: tail) ∧
          maskFrom stem keepsFormatting count rest =
            ('{' :: (run ++ (maskFrom stem keepsFormatting count tail).1),
              (maskFrom stem keepsFormatting count tail).2) := by
  cases rest with
  | nil => simp [maskFrom_nil] at same
  | cons second inner =>
      -- A token behind the brace would make a token together with it.
      have stillMissing : readBody? (second :: inner) = none := by
        rw [Option.eq_none_iff_forall_ne_some]
        rintro ⟨body, remaining⟩ found
        obtain ⟨shape, _, inside⟩ := readBody?_eq_some_iff.mp found
        have bracedInside : ∀ char ∈ '{' :: body, isInside char = true := by
          intro char member
          rcases List.mem_cons.mp member with rfl | inBody
          · decide
          · exact inside char inBody
        have earlier : readBody? ('{' :: second :: inner) = some ('{' :: body, remaining) := by
          rw [readBody?_eq_some_iff, shape, braced_append, braced_append]
          exact ⟨rfl, by simp, bracedInside⟩
        rw [missing] at earlier
        cases earlier
      have scanned : maskFrom stem keepsFormatting count (second :: inner) = _ :=
        maskFrom_cons stillMissing count
      rw [scanned] at same
      obtain ⟨rfl, _⟩ := List.cons.inj same
      obtain ⟨run, tail, rfl, inside, stops⟩ := exists_run inner
      have noToken : run = [] ∨ ¬ ['}', '}'] <+: tail := by
        by_contra both
        rw [not_or, not_not] at both
        obtain ⟨remaining, tailShape⟩ := both.2
        have found : readBody? ('{' :: '{' :: (run ++ tail)) = some (run, remaining) := by
          rw [readBody?_eq_some_iff, braced_append, ← tailShape]
          exact ⟨rfl, both.1, inside⟩
        rw [missing] at found
        cases found
      refine ⟨run, tail, rfl, inside, stops, noToken, ?_⟩
      rcases noToken with rfl | notClosed
      · exact scanned
      · have bracedInside : ∀ char ∈ '{' :: run, isInside char = true := by
          intro char member
          rcases List.mem_cons.mp member with rfl | inRun
          · decide
          · exact inside char inRun
        exact maskFrom_run bracedInside stops notClosed count

theorem brace_not_mem_placeholder
    {stem : Text}
    (isMark : IsMark stem)
    (formatting : Bool)
    (count : Nat) :
    '{' ∉ placeholder stem formatting count :=
  (isMark.placeholder formatting count).not_mem (by decide)

/-- A masked text is settled: between double braces and the next closing brace stands no
placeholder. -/
theorem settled_maskFrom
    (isMark : IsMark stem)
    {text : Text}
    (fresh : ¬ stem <:+: text)
    (count : Nat) :
    Settled stem (maskFrom stem keepsFormatting count text).1 := by
  induction text using bodyPattern.scan_induction generalizing count with
  | nil =>
      rw [maskFrom_nil]
      intro before run after shape
      simp at shape
  | found text body rest isFound inductionHypothesis =>
      have textShape := (readBody?_eq_some_iff.mp isFound).1
      have restFresh : ¬ stem <:+: rest := by
        intro isInfix
        rw [textShape] at fresh
        exact fresh (isInfix.trans (List.suffix_append _ rest).isInfix)
      cases isRecognised : recognise? keepsFormatting body with
      | some recognised =>
          rw [maskFrom_recognised isFound isRecognised]
          exact settled_append (brace_not_mem_placeholder isMark _ _)
            (inductionHypothesis restFresh _)
      | none =>
          rw [maskFrom_unknown isFound isRecognised]
          exact inductionHypothesis restFresh _
  | plain first rest missing inductionHypothesis =>
      have restFresh : ¬ stem <:+: rest :=
        fun isInfix => fresh (isInfix.trans (List.suffix_cons first rest).isInfix)
      rw [maskFrom_cons missing]
      refine settled_cons (fun run after same inside isInfix => ?_)
        (inductionHypothesis restFresh count)
      obtain ⟨rfl, behind⟩ := List.cons.inj same
      -- The run behind the braces is a run of the text, and the stem is nowhere in the text.
      obtain ⟨oldRun, tail, rfl, _, stops, _, scanned⟩ := exists_run_of_maskFrom missing behind
      rw [scanned] at behind
      have sameRun := (List.cons.inj behind).2.symm
      have isPrefix := prefix_of_inside sameRun inside (stops_maskFrom stops count)
      have inText : oldRun <:+: '{' :: '{' :: (oldRun ++ tail) := ⟨['{', '{'], tail, by simp⟩
      exact fresh ((isInfix.trans isPrefix.isInfix).trans inText)

/-- Where nothing is cut out, a closing brace at the beginning was there before. -/
theorem exists_closer_of_maskFrom
    (isMark : IsMark stem)
    {text : Text}
    {count : Nat}
    (nothingDropped : (maskFrom stem keepsFormatting count text).2.2 = [])
    (closes : ['}'] <+: (maskFrom stem keepsFormatting count text).1) :
    ∃ rest, text = '}' :: rest := by
  cases text with
  | nil => simp [maskFrom_nil] at closes
  | cons first rest =>
      cases found : readBody? (first :: rest) with
      | none =>
          rw [maskFrom_cons found, List.cons_prefix_cons] at closes
          exact ⟨rest, by rw [closes.1]⟩
      | some token =>
          obtain ⟨body, remaining⟩ := token
          cases isRecognised : recognise? keepsFormatting body with
          | none =>
              rw [maskFrom_unknown found isRecognised] at nothingDropped
              cases nothingDropped
          | some recognised =>
              obtain ⟨others, rfl, _⟩ := isMark
              rw [maskFrom_recognised found isRecognised] at closes
              simp [placeholder] at closes

/-- If no token is cut out, no opener stands in the masked text. -/
theorem not_holdsOpener_maskFrom
    (isMark : IsMark stem)
    {text : Text}
    {count : Nat}
    (nothingDropped : (maskFrom stem keepsFormatting count text).2.2 = []) :
    ¬ HoldsOpener (maskFrom stem keepsFormatting count text).1 := by
  induction text using bodyPattern.scan_induction generalizing count with
  | nil =>
      rw [maskFrom_nil]
      exact not_holdsOpener_nil
  | found text body rest isFound inductionHypothesis =>
      cases isRecognised : recognise? keepsFormatting body with
      | none =>
          rw [maskFrom_unknown isFound isRecognised] at nothingDropped
          cases nothingDropped
      | some recognised =>
          rw [maskFrom_recognised isFound isRecognised] at nothingDropped ⊢
          rw [holdsOpener_append (brace_not_mem_placeholder isMark _ _)]
          exact inductionHypothesis nothingDropped
  | plain first rest missing inductionHypothesis =>
      rw [maskFrom_cons missing] at nothingDropped ⊢
      rw [holdsOpener_cons, not_or]
      refine ⟨fun opens => ?_, inductionHypothesis nothingDropped⟩
      obtain ⟨letter, after, same, _⟩ := opens.exists_eq
      obtain ⟨rfl, behind⟩ := List.cons.inj same
      obtain ⟨run, tail, rfl, inside, stops, noToken, scanned⟩ :=
        exists_run_of_maskFrom missing behind
      rw [scanned] at opens nothingDropped
      obtain ⟨⟨kind, isName⟩, closes⟩ :=
        (opensAt_append inside (stops_maskFrom stops count)).mp opens
      -- In the text the run is not followed by two closing braces, or it would be a token.
      have notClosed : ¬ ['}', '}'] <+: tail := by
        refine noToken.resolve_left ?_
        rintro rfl
        simp at isName
      cases tail with
      | nil => simp [maskFrom_nil] at closes
      | cons closer tailRest =>
          have isCloser : closer = '}' := by
            simpa [isInside] using stops_cons.mp stops
          have closerMissing : readBody? (closer :: tailRest) = none := by
            rw [isCloser]
            rfl
          rw [maskFrom_cons closerMissing] at closes nothingDropped
          obtain ⟨remaining, rfl⟩ := exists_closer_of_maskFrom isMark nothingDropped
            (List.cons_prefix_cons.mp closes).2
          exact notClosed ⟨remaining, by rw [isCloser]; rfl⟩

end Scan

end EmailComposer.Token
