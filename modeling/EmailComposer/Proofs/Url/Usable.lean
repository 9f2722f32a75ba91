import EmailComposer.Proofs.Url.Check

namespace EmailComposer.Url

/-!
# How usable URLs begin

A usable URL begins with its scheme, in any letter case of ASCII, and with two slashes if it
leads to a host. In front of the scheme there may be control characters, which taking the URL
apart skips. The protocol check does not skip them, so these are the only usable URLs that it
refuses.
-/

open EmailComposer.Text

/-- A character that is skipped at the beginning of a URL: a control character or the blank. -/
def isSkipped (char : Char) : Bool :=
  char.toNat ≤ 32

/-- A URL that can be linked, divided behind its scheme as that is spelled. -/
structure IsDivided (text : Text) (url : Url) (scheme rest : Text) : Prop where
  isRead : split? text = some url
  isAllowed : url.scheme ∈ allowedSchemes
  shape : text.dropWhile isSkipped = scheme ++ ':' :: rest
  isScheme : scheme.map lowerAscii = url.scheme
  leadsToHost : url.scheme ≠ "mailto" → "//".toList <+: rest

/-- The URL names what it leads to: an address to write to, or a host and a sound port. -/
def LeadsSomewhere (url : Url) : Prop :=
  if url.scheme = "mailto" then
    url.path ≠ []
  else
    isPort (hostAndPort url.authority).2 = true ∧ (hostAndPort url.authority).1 ≠ []

section Parts

/-- A scheme is what stands before a colon, in lower case. -/
theorem exists_of_splitScheme
    {text : Text}
    (hasScheme : (splitScheme text).1 ≠ []) :
    ∃ scheme,
      text = scheme ++ ':' :: (splitScheme text).2 ∧ lower scheme = (splitScheme text).1 := by
  unfold splitScheme at hasScheme ⊢
  split at hasScheme
  · rename_i scheme rest isCut
    split at hasScheme
    · rename_i isScheme
      simp only [isScheme, if_true]
      exact ⟨scheme, eq_append_of_cut_eq_some isCut, rfl⟩
    · exact absurd rfl hasScheme
  · exact absurd rfl hasScheme

/-- An authority stands behind two slashes. -/
theorem slashes_prefix_of_splitAuthority
    {text : Text}
    (hasAuthority : (splitAuthority text).1 ≠ []) :
    "//".toList <+: text := by
  unfold splitAuthority at hasAuthority
  split at hasAuthority
  · rename_i rest isAfter
    exact ⟨rest, (after?_eq_some_iff.mp isAfter).symm⟩
  · exact absurd rfl hasAuthority

/-- The schemes of links can be seen through letter case and are spelled in small letters. -/
theorem allowedSchemes_sound :
    ∀ scheme ∈ allowedSchemes,
      IsPlainWord scheme ∧ scheme ≠ [] ∧ ':' ∉ scheme ∧
        ∀ char ∈ scheme, lowerAscii char = char ∧ isSkipped char = false := by
  decide

theorem isSkipped_lowerAscii
    (char : Char) :
    isSkipped (lowerAscii char) = isSkipped char := by
  by_cases isAscii : char.toNat < 0x80
  · exact forall_ascii (motive := fun char => isSkipped (lowerAscii char) = isSkipped char)
      (by decide +kernel) isAscii
  · rw [lowerAscii_of_outside (Nat.le_of_not_lt isAscii)]

/-- No character of a protocol is skipped. -/
theorem IsProtocol.stops_append
    {start : Text}
    (isProtocol : IsProtocol start)
    (rest : Text) :
    Stops isSkipped (start ++ rest) := by
  have noneSkipped : ∀ protocol ∈ allowedProtocols, ∀ char ∈ protocol, isSkipped char = false := by
    decide
  cases start with
  | nil => exact absurd rfl (allowedProtocols_sound _ isProtocol).2.2.2
  | cons first others =>
      refine stops_cons.mpr ?_
      rw [← isSkipped_lowerAscii]
      exact noneSkipped _ isProtocol _ (by simp)

end Parts

section Usable

variable {secure : Bool} {text : Text}

/-- The parts of a URL without blanks are read off the text behind what is skipped. -/
theorem parts_of_split?
    {url : Url}
    (isRead : split? text = some url)
    (noBlank : ∀ char ∈ text, isBlank char = false) :
    url.scheme = (splitScheme (text.dropWhile isSkipped)).1 ∧
      url.authority = (splitAuthority (splitScheme (text.dropWhile isSkipped)).2).1 := by
  have noBreaks : (text.dropWhile isSkipped).filter (· ∉ ['\t', '\r', '\n']) =
      text.dropWhile isSkipped := by
    refine List.filter_eq_self.mpr fun char member => decide_eq_true fun isBreak => ?_
    have areBlank : ∀ char ∈ ['\t', '\r', '\n'], isBlank char = true := by decide
    have notBlank := noBlank char ((List.dropWhile_suffix isSkipped).subset member)
    rw [areBlank char isBreak] at notBlank
    cases notBlank
  have fromShown : ∃ shown,
      shown = (text.dropWhile isSkipped).filter (· ∉ ['\t', '\r', '\n']) ∧
        url.scheme = (splitScheme shown).1 ∧
          url.authority = (splitAuthority (splitScheme shown).2).1 := by
    refine ⟨_, rfl, ?_⟩
    unfold split? at isRead
    dsimp only at isRead
    split at isRead
    · cases isRead
      exact ⟨rfl, rfl⟩
    · cases isRead
  obtain ⟨shown, rfl, parts⟩ := fromShown
  rwa [noBreaks] at parts

/-- A usable URL has no blanks, and its parts are what the check asks for. -/
theorem isUsable_iff :
    isUsable secure text = true ↔
      text ≠ [] ∧ (∀ char ∈ text, isBlank char = false) ∧
        ∃ url,
          split? text = some url ∧
            (if secure then url.scheme = "https" else url.scheme ∈ allowedSchemes) ∧
              LeadsSomewhere url := by
  unfold isUsable
  split
  · rename_i unfit
    refine iff_of_false Bool.false_ne_true ?_
    rintro ⟨notEmpty, noBlank, _⟩
    rw [Bool.or_eq_true, List.isEmpty_iff, List.any_eq_true, or_iff_right notEmpty] at unfit
    obtain ⟨char, member, isBlank⟩ := unfit
    rw [noBlank char member] at isBlank
    cases isBlank
  · rename_i fit
    rw [Bool.or_eq_true, not_or, List.isEmpty_iff, List.any_eq_true] at fit
    have noBlank : ∀ char ∈ text, isBlank char = false := fun char member =>
      Bool.eq_false_iff.mpr fun isBlank => fit.2 ⟨char, member, isBlank⟩
    rw [and_iff_right fit.1, and_iff_right noBlank]
    cases split? text with
    | none => simp only [Bool.false_eq_true, reduceCtorEq, false_and, exists_false]
    | some url =>
        simp only [Option.some.injEq, exists_eq_left', LeadsSomewhere]
        cases secure <;>
          simp only [if_true, if_false, Bool.false_eq_true, Bool.not_eq_true',
            decide_eq_false_iff_not, ite_not, ne_eq, Bool.ite_eq_true_distrib, if_false_right,
            Bool.and_eq_true, List.isEmpty_eq_false_iff]

theorem isBlank_eq_false_of_isUsable
    (usable : isUsable secure text = true)
    {char : Char}
    (member : char ∈ text) :
    isBlank char = false :=
  (isUsable_iff.mp usable).2.1 char member

/-- A usable URL divides behind its scheme. -/
theorem exists_isDivided
    (usable : isUsable secure text = true) :
    ∃ url scheme rest,
      IsDivided text url scheme rest ∧ (secure = true → url.scheme = "https") := by
  obtain ⟨_, noBlank, url, isRead, isScheme, leads⟩ := isUsable_iff.mp usable
  have isSecure : secure = true → url.scheme = "https" := by
    rintro rfl
    exact isScheme
  have isAllowed : url.scheme ∈ allowedSchemes := by
    cases secure with
    | false => exact isScheme
    | true => exact isSecure rfl ▸ (by decide)
  obtain ⟨isFirst, isAuthority⟩ := parts_of_split? isRead noBlank
  obtain ⟨isWord, notEmpty, _⟩ := allowedSchemes_sound _ isAllowed
  obtain ⟨scheme, shape, lowered⟩ := exists_of_splitScheme (isFirst ▸ notEmpty)
  rw [← isFirst, lower_eq_iff isWord] at lowered
  refine ⟨url, scheme, _, ⟨isRead, isAllowed, shape, lowered, fun notMail => ?_⟩, isSecure⟩
  rw [LeadsSomewhere, if_neg notMail] at leads
  apply slashes_prefix_of_splitAuthority
  rw [← isAuthority]
  intro noAuthority
  rw [noAuthority] at leads
  exact leads.2 rfl

end Usable

namespace IsDivided

variable
  {text scheme rest : Text}
  {url : Url}
  (divided : IsDivided text url scheme rest)

include divided

/-- Behind what is skipped stands a protocol. -/
theorem exists_isProtocol :
    ∃ start others,
      text.dropWhile isSkipped = start ++ others ∧ IsProtocol start ∧
        (url.scheme ≠ "mailto" → start.map lowerAscii = url.scheme ++ "://") := by
  by_cases isMail : url.scheme = "mailto"
  · refine ⟨scheme ++ [':'], rest, divided.shape.trans (List.append_cons ..), ?_, absurd isMail⟩
    rw [IsProtocol, List.map_append, divided.isScheme, isMail]
    decide
  · obtain ⟨others, isRest⟩ := divided.leadsToHost isMail
    have spelled : (scheme ++ "://".toList).map lowerAscii = url.scheme ++ "://" := by
      rw [List.map_append, divided.isScheme]
      rfl
    have shape : text.dropWhile isSkipped = (scheme ++ "://") ++ others := by
      rw [divided.shape, ← isRest, List.append_assoc]
      rfl
    refine ⟨scheme ++ "://", others, shape, ?_, fun _ => spelled⟩
    have ofHost : ∀ scheme ∈ allowedSchemes,
        scheme ≠ "mailto" → scheme ++ "://" ∈ allowedProtocols := by
      decide
    rw [IsProtocol, spelled]
    exact ofHost _ divided.isAllowed isMail

theorem hasAllowedProtocol_dropWhile :
    hasAllowedProtocol (text.dropWhile isSkipped) = true := by
  obtain ⟨start, others, shape, isProtocol, _⟩ := divided.exists_isProtocol
  exact hasAllowedProtocol_iff.mpr ⟨[], start, others, shape, by simp, isProtocol⟩

/-- A secure URL begins with the secure protocol, letter case aside. -/
theorem startsWith_lower_dropWhile
    (isSecure : url.scheme = "https") :
    startsWith "https://" (lower (text.dropWhile isSkipped)) = true := by
  obtain ⟨start, others, shape, _, spelled⟩ := divided.exists_isProtocol
  have isWord : IsPlainWord "https://" := by decide
  rw [startsWith_iff, prefix_lower_iff isWord, shape, List.map_append,
    spelled (by rw [isSecure]; decide), isSecure]
  exact List.prefix_append _ _

theorem colon_not_mem :
    ':' ∉ scheme := by
  intro member
  obtain ⟨_, _, noColon, _⟩ := allowedSchemes_sound _ divided.isAllowed
  exact noColon (divided.isScheme ▸ List.mem_map_of_mem member)

end IsDivided

section Protocol

/-- Nothing is skipped in a text that begins with another character. -/
theorem dropWhile_isSkipped
    {text : Text}
    (stops : Stops isSkipped text) :
    text.dropWhile isSkipped = text := by
  cases text with
  | nil => rfl
  | cons first rest => rw [List.dropWhile_cons_of_neg (by simp [stops_cons.mp stops])]

/-- A usable URL passes the protocol check exactly if nothing in it is skipped. -/
theorem hasAllowedProtocol_iff_of_isUsable
    {secure : Bool}
    {text : Text}
    (usable : isUsable secure text = true) :
    hasAllowedProtocol text = true ↔ Stops isSkipped text := by
  constructor
  · intro allowed
    obtain ⟨blanks, start, others, rfl, areBlank, isProtocol⟩ := hasAllowedProtocol_iff.mp allowed
    cases blanks with
    | nil => exact isProtocol.stops_append others
    | cons first _ =>
        have notBlank := isBlank_eq_false_of_isUsable usable (List.mem_cons_self ..)
        rw [areBlank first (List.mem_cons_self ..)] at notBlank
        cases notBlank
  · intro stops
    obtain ⟨url, scheme, rest, divided, _⟩ := exists_isDivided usable
    exact dropWhile_isSkipped stops ▸ divided.hasAllowedProtocol_dropWhile

/-- A text that begins with the secure protocol, letter case aside, has nothing to skip. -/
theorem stops_of_startsWith_lower
    {text : Text}
    (begins : startsWith "https://" (lower text) = true) :
    Stops isSkipped text := by
  have isWord : IsPlainWord "https://" := by decide
  obtain ⟨ending, same⟩ := (prefix_lower_iff isWord).mp (startsWith_iff.mp begins)
  obtain ⟨start, rest, rfl, isStart, _⟩ := List.map_eq_append_iff.mp same.symm
  have isProtocol : IsProtocol start := by
    rw [IsProtocol, isStart]
    decide
  exact isProtocol.stops_append rest

/--
A URL that can be used has an allowed protocol, and a secure one the secure protocol, exactly
if no control character stands in front of it. In any case this holds of what follows the
control characters.
-/
theorem isUsable_allowed_iff
    {secure : Bool}
    {text : Text}
    (usable : isUsable secure text = true) :
    ((hasAllowedProtocol text = true ↔ Stops isSkipped text) ∧
        hasAllowedProtocol (text.dropWhile isSkipped) = true) ∧
      (secure = true →
        (startsWith "https://" (lower text) = true ↔ Stops isSkipped text) ∧
          startsWith "https://" (lower (text.dropWhile isSkipped)) = true) := by
  obtain ⟨url, scheme, rest, divided, isSecure⟩ := exists_isDivided usable
  refine ⟨⟨hasAllowedProtocol_iff_of_isUsable usable, divided.hasAllowedProtocol_dropWhile⟩,
    fun secure => ?_⟩
  have behind := divided.startsWith_lower_dropWhile (isSecure secure)
  refine ⟨⟨stops_of_startsWith_lower, fun stops => ?_⟩, behind⟩
  rwa [dropWhile_isSkipped stops] at behind

/-- A secure URL in capital letters, with a port, has the secure protocol. -/
theorem isUsable_allowed_iff_of_capitals :
    isUsable true "HTTPS://X:8080/PATH" = true ∧
      hasAllowedProtocol "HTTPS://X:8080/PATH" = true ∧
        startsWith "https://" (lower "HTTPS://X:8080/PATH") = true := by
  have usable : isUsable true "HTTPS://X:8080/PATH" = true := by decide +kernel
  have stops : Stops isSkipped "HTTPS://X:8080/PATH" := stops_cons.mpr (by decide)
  obtain ⟨⟨allowed, _⟩, ofSecure⟩ := isUsable_allowed_iff usable
  exact ⟨usable, allowed.mpr stops, (ofSecure rfl).1.mpr stops⟩

/-- Not every usable URL has an allowed protocol: the control character is skipped by one check
only. -/
theorem not_forall_hasAllowedProtocol :
    ¬ ∀ text,
      (isUsable false text = true → hasAllowedProtocol text = true) ∧
        (isUsable true text = true → startsWith "https://" (lower text) = true) := by
  intro allowed
  exact absurd ((allowed "\x01https://x").1 (by decide +kernel)) (by decide +kernel)

end Protocol

section PlainSpelling

/-- Nothing stands in front of the scheme, and no letter of the scheme is a capital one. -/
structure IsPlainlySpelled (text : Text) : Prop where
  nothingSkipped : Stops isSkipped text
  smallLetters : ∀ char ∈ (cut ':' text).1, lowerAscii char = char

/-- A URL that begins with a protocol in small letters is plainly spelled. -/
theorem isPlainlySpelled_of_prefix
    {text scheme : Text}
    (isAllowed : scheme ∈ allowedSchemes)
    (isPrefix : scheme ++ "://".toList <+: text) :
    IsPlainlySpelled text := by
  obtain ⟨_, notEmpty, noColon, areSmall⟩ := allowedSchemes_sound scheme isAllowed
  obtain ⟨others, rfl⟩ := isPrefix
  have shape : scheme ++ "://".toList ++ others = scheme ++ ':' :: ("//".toList ++ others) :=
    List.append_assoc ..
  rw [shape]
  constructor
  · cases scheme with
    | nil => exact absurd rfl notEmpty
    | cons first _ => exact stops_cons.mpr (areSmall first (List.mem_cons_self ..)).2
  · rw [cut_append_cons noColon]
    exact fun char member => (areSmall char member).1

/-- The scheme of a plainly spelled URL is spelled as it is read. -/
theorem IsDivided.eq_append_of_isPlainlySpelled
    {text scheme rest : Text}
    {url : Url}
    (divided : IsDivided text url scheme rest)
    (isPlain : IsPlainlySpelled text) :
    text = url.scheme ++ ':' :: rest := by
  have shape : text = scheme ++ ':' :: rest :=
    (dropWhile_isSkipped isPlain.nothingSkipped).symm.trans divided.shape
  have areSmall : ∀ char ∈ scheme, lowerAscii char = char := by
    intro char member
    apply isPlain.smallLetters
    rw [shape, cut_append_cons divided.colon_not_mem]
    exact member
  have same : url.scheme = scheme := by
    rw [← divided.isScheme, List.map_congr_left areSmall, List.map_id']
  rw [same]
  exact shape

/-- So a plainly spelled URL that leads to a host begins with its protocol. -/
theorem IsDivided.prefix_of_isPlainlySpelled
    {text scheme rest : Text}
    {url : Url}
    (divided : IsDivided text url scheme rest)
    (notMail : url.scheme ≠ "mailto")
    (isPlain : IsPlainlySpelled text) :
    url.scheme ++ "://".toList <+: text := by
  obtain ⟨others, isRest⟩ := divided.leadsToHost notMail
  refine ⟨others, ?_⟩
  rw [divided.eq_append_of_isPlainlySpelled isPlain, ← isRest, List.append_assoc]
  rfl

end PlainSpelling

end EmailComposer.Url
