import EmailComposer.Block.Sanitize
import EmailComposer.Proofs.Url.Usable
import EmailComposer.Proofs.Validation.Acceptance

namespace EmailComposer

/-!
# Usable URLs and the validator

The validator looks for a protocol in small letters at the very beginning of a URL. It never
finds a usable URL to be missing, but it finds fault with one whose scheme has a capital letter
or follows a control character.
-/

open EmailComposer.Text
open EmailComposer.Url
open EmailComposer.Validation

namespace UrlField

/-- The code of the finding that a field is blank. -/
def missingCode : UrlField → Text
  | .buttonTarget => "MISSING_BUTTON_HREF"
  | .imageSource => "MISSING_IMAGE_SRC"

/-- The code of the finding that a URL begins otherwise. -/
def protocolCode : UrlField → Text
  | .buttonTarget => "INVALID_BUTTON_PROTOCOL"
  | .imageSource => "INVALID_IMAGE_PROTOCOL"

end UrlField

namespace Block

/-- The URL of a block passes its check, and that of a button is one of the web. -/
structure HoldsWebUrl (block : Block) (field : UrlField) (value : Text) : Prop where
  isField : block.urlField? = some (field, value)
  isUsable : Url.isUsable field.requiresSecure value = true
  isWeb :
    field = .buttonTarget →
      ∃ url, split? value = some url ∧ (url.scheme = "http" ∨ url.scheme = "https")

end Block

namespace Validation

theorem isAllBlank_of_isUsable
    {secure : Bool}
    {text : Text}
    (usable : isUsable secure text = true) :
    isAllBlank text = false := by
  obtain ⟨notEmpty, noBlank, _⟩ := isUsable_iff.mp usable
  obtain ⟨char, member⟩ := List.exists_mem_of_ne_nil text notEmpty
  exact isAllBlank_eq_false_iff.mpr ⟨char, member, noBlank char member⟩

/-- A usable image URL begins as the validator asks exactly if it is plainly spelled. -/
theorem beginsSecure_iff
    {text : Text}
    (usable : isUsable true text = true) :
    startsWith "https://" text = true ↔ IsPlainlySpelled text := by
  obtain ⟨url, scheme, rest, divided, isSecure⟩ := exists_isDivided usable
  have secure : url.scheme = "https" := isSecure rfl
  rw [startsWith_iff]
  constructor
  · exact isPlainlySpelled_of_prefix (secure ▸ divided.isAllowed)
  · intro isPlain
    have notMail : url.scheme ≠ "mailto" := secure ▸ (by decide)
    have begins := divided.prefix_of_isPlainlySpelled notMail isPlain
    rwa [secure] at begins

/-- So does a usable URL of the web in a button, where either protocol will do. -/
theorem beginsWeb_iff
    {text : Text}
    (usable : isUsable false text = true)
    (isWeb : ∃ url, split? text = some url ∧ (url.scheme = "http" ∨ url.scheme = "https")) :
    (startsWith "https://" text = true ∨ startsWith "http://" text = true) ↔
      IsPlainlySpelled text := by
  obtain ⟨url, scheme, rest, divided, _⟩ := exists_isDivided usable
  obtain ⟨other, isRead, scheme⟩ := isWeb
  obtain rfl : url = other := Option.some.inj (divided.isRead.symm.trans isRead)
  rw [startsWith_iff, startsWith_iff]
  constructor
  · rintro (secure | plain)
    · exact isPlainlySpelled_of_prefix (show ("https" : Text) ∈ allowedSchemes by decide) secure
    · exact isPlainlySpelled_of_prefix (show ("http" : Text) ∈ allowedSchemes by decide) plain
  · intro isPlain
    rcases scheme with isHttp | isHttps
    · have begins := divided.prefix_of_isPlainlySpelled (isHttp ▸ (by decide)) isPlain
      rw [isHttp] at begins
      exact .inr begins
    · have begins := divided.prefix_of_isPlainlySpelled (isHttps ▸ (by decide)) isPlain
      rw [isHttps] at begins
      exact .inl begins

theorem map_code_issueIf
    (condition : Bool)
    (issue : Issue) :
    (issueIf condition issue).map Issue.code = if condition then [issue.code] else [] := by
  cases condition <;> rfl

end Validation

namespace Block

/-- What is found about an image that has a source. -/
theorem codes_checkImage
    {image : ImageBlock}
    (notBlank : isAllBlank image.src = false) :
    (checkImage image).map Issue.code =
      (if !startsWith "https://" image.src then [UrlField.imageSource.protocolCode] else []) ++
        if isAllBlank image.alt then ["MISSING_IMAGE_ALT".toList] else [] := by
  rw [checkImage, notBlank, if_neg Bool.false_ne_true, List.map_append, map_code_issueIf,
    map_code_issueIf]
  rfl

/-- What is found about a button that has a target. -/
theorem codes_checkButton
    {button : ButtonBlock}
    (notBlank : isAllBlank button.href = false) :
    (checkButton button).map Issue.code =
      (if isAllBlank button.label then ["EMPTY_BUTTON_LABEL".toList] else []) ++
        if !startsWith "https://" button.href && !startsWith "http://" button.href then
          [UrlField.buttonTarget.protocolCode]
        else
          [] := by
  rw [checkButton, notBlank, if_neg Bool.false_ne_true, List.map_append, map_code_issueIf,
    map_code_issueIf]
  rfl

/--
A URL that can be used is never found to be missing. It is found to begin otherwise exactly if
it is not plainly spelled, that is, if a control character stands in front of its scheme or
the scheme has a capital letter.
-/
theorem webUrl_reported_iff
    {block : Block}
    {field : UrlField}
    {value : Text}
    (holds : block.HoldsWebUrl field value) :
    field.missingCode ∉ (checkBlockContent block).map Issue.code ∧
      (field.protocolCode ∈ (checkBlockContent block).map Issue.code ↔
        ¬ IsPlainlySpelled value) := by
  obtain ⟨isField, usable, isWeb⟩ := holds
  have notBlank := isAllBlank_of_isUsable usable
  cases block with
  | image image =>
      cases isField
      rw [checkBlockContent, codes_checkImage notBlank, ← beginsSecure_iff usable]
      cases startsWith "https://" image.src <;> cases isAllBlank image.alt <;> decide
  | button button =>
      cases isField
      rw [checkBlockContent, codes_checkButton notBlank, ← beginsWeb_iff usable (isWeb rfl)]
      cases startsWith "https://" button.href <;> cases startsWith "http://" button.href <;>
        cases isAllBlank button.label <;> decide
  | _ => cases isField

/-- A button whose URL has capital letters, but none in its scheme. -/
def portalButton : ButtonBlock :=
  ⟨"1", "Go", "http://LOCALHOST:8080/Path", none, none, none, none, none, none, none⟩

/-- Its URL is not found to be missing or to begin otherwise. -/
theorem webUrl_reported_iff_of_portalButton :
    (Block.button portalButton).HoldsWebUrl .buttonTarget portalButton.href ∧
      IsPlainlySpelled portalButton.href ∧
        "MISSING_BUTTON_HREF".toList ∉
            (checkBlockContent (.button portalButton)).map Issue.code ∧
          "INVALID_BUTTON_PROTOCOL".toList ∉
            (checkBlockContent (.button portalButton)).map Issue.code := by
  have holds : (Block.button portalButton).HoldsWebUrl .buttonTarget portalButton.href :=
    ⟨rfl, by decide +kernel, fun _ => ⟨_, rfl, .inl rfl⟩⟩
  have isPlain : IsPlainlySpelled portalButton.href :=
    isPlainlySpelled_of_prefix (show ("http" : Text) ∈ allowedSchemes by decide) (by decide)
  obtain ⟨notMissing, begins⟩ := webUrl_reported_iff holds
  exact ⟨holds, isPlain, notMissing, fun isFound => begins.mp isFound isPlain⟩

/-- An image whose URL has its scheme in capital letters. -/
def capitalImage : ImageBlock :=
  ⟨"1", "HTTPS://x/y.png", "A", none, none, none, none, none⟩

/-- So the validator does not let every usable URL pass: it does not take this one for secure. -/
theorem not_forall_webUrl_unreported :
    ¬ ∀ (block : Block) field value,
      block.HoldsWebUrl field value →
        field.missingCode ∉ (checkBlockContent block).map Issue.code ∧
          field.protocolCode ∉ (checkBlockContent block).map Issue.code := by
  intro unreported
  have holds : (Block.image capitalImage).HoldsWebUrl .imageSource capitalImage.src :=
    ⟨rfl, by decide +kernel, by rintro ⟨⟩⟩
  exact (unreported _ _ _ holds).2 (by decide)

end Block

end EmailComposer
