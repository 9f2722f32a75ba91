import EmailComposer.Number.Reading
import EmailComposer.Settings.Environment

namespace EmailComposer

/-!
# Settings

The brand behind the emails: its texts, addresses and images. Every setting has a
default that the environment may override.
-/

open EmailComposer.Text

/-- All settings. -/
structure Settings where
  logLevel : Text
  jsonLogs : Bool
  templatesDirectory : Text
  headerLogoUrl : Text
  headerLogoHeight : Int
  helpTitle : Text
  helpDescription : Text
  helpImageUrl : Text
  contactEmail : Text
  contactChatDisplay : Text
  contactChatNumber : Text
  complianceText : Text
  complianceSandboxNumber : Text
  footerLogoUrl : Text
  companyName : Text
  companyAddress : Text
  instagramUrl : Text
  socialIconBaseUrl : Text
  contactIconBaseUrl : Text
  deriving Repr, DecidableEq

namespace Settings

/-- The help text by default. -/
def defaultHelpDescription : Text :=
  "Tim kami siap bantu kamu! Kalau ada pertanyaan atau kendala saat registrasi " ++
    "dan verifikasi, langsung aja hubungi kami via:"

/-- A text without the slashes at its end. -/
def dropEndSlashes (text : Text) : Text :=
  dropEndWhile (· == '/') text

/-- The names under which an environment may hold settings. -/
def variableNames : List Text :=
  ["MAILBLOCKS_LOG_LEVEL", "MAILBLOCKS_JSON_LOGS", "MAILBLOCKS_TEMPLATES_DIR",
    "MAILBLOCKS_HEADER_LOGO_URL", "MAILBLOCKS_HEADER_LOGO_HEIGHT", "MAILBLOCKS_HELP_TITLE",
    "MAILBLOCKS_HELP_DESCRIPTION", "MAILBLOCKS_HELP_IMAGE_URL", "MAILBLOCKS_CONTACT_EMAIL",
    "MAILBLOCKS_CONTACT_WHATSAPP_DISPLAY", "MAILBLOCKS_CONTACT_WHATSAPP_NUMBER",
    "MAILBLOCKS_COMPLIANCE_TEXT", "MAILBLOCKS_COMPLIANCE_SANDBOX_NUMBER",
    "MAILBLOCKS_FOOTER_LOGO_URL", "MAILBLOCKS_COMPANY_NAME", "MAILBLOCKS_COMPANY_ADDRESS",
    "MAILBLOCKS_INSTAGRAM_URL", "MAILBLOCKS_SOCIAL_ICON_BASE_URL",
    "MAILBLOCKS_CONTACT_ICON_BASE_URL"]

/-- The settings of an environment. The height of the logo has to be an integer. -/
def read (environment : Environment) : Except Number.IntegerError Settings := do
  let headerLogoHeight ←
    Number.settingInt (environment.text "MAILBLOCKS_HEADER_LOGO_HEIGHT" "32")
  return {
    logLevel := environment.text "MAILBLOCKS_LOG_LEVEL" "INFO"
    jsonLogs := environment.switch "MAILBLOCKS_JSON_LOGS" true
    templatesDirectory := environment.text "MAILBLOCKS_TEMPLATES_DIR" ""
    headerLogoUrl :=
      environment.text "MAILBLOCKS_HEADER_LOGO_URL"
        "https://nobi.id/icons/logo-nobi-dana-kripto-black.png"
    headerLogoHeight := headerLogoHeight
    helpTitle := environment.text "MAILBLOCKS_HELP_TITLE" "Butuh Bantuan untuk Mulai?"
    helpDescription := environment.text "MAILBLOCKS_HELP_DESCRIPTION" defaultHelpDescription
    helpImageUrl :=
      environment.text "MAILBLOCKS_HELP_IMAGE_URL" "https://nobi.id/images/hubungi-kami.png"
    contactEmail := environment.text "MAILBLOCKS_CONTACT_EMAIL" "halo@nobi.id"
    contactChatDisplay :=
      environment.text "MAILBLOCKS_CONTACT_WHATSAPP_DISPLAY" "+62 811-8826-624"
    contactChatNumber :=
      environment.text "MAILBLOCKS_CONTACT_WHATSAPP_NUMBER" "628118826624"
    complianceText :=
      environment.text "MAILBLOCKS_COMPLIANCE_TEXT"
        "PT Dana Kripto Indonesia sebagai peserta sandbox OJK"
    complianceSandboxNumber :=
      environment.text "MAILBLOCKS_COMPLIANCE_SANDBOX_NUMBER" "S-196/IK.01/2025"
    footerLogoUrl :=
      environment.text "MAILBLOCKS_FOOTER_LOGO_URL"
        "https://nobi.id/icons/logo-nobi-dana-kripto.png"
    companyName := environment.text "MAILBLOCKS_COMPANY_NAME" "PT. Dana Kripto Indonesia"
    companyAddress :=
      environment.text "MAILBLOCKS_COMPANY_ADDRESS"
        "The Plaza Office Tower - 7th Floor, Jakarta, Indonesia"
    instagramUrl :=
      environment.text "MAILBLOCKS_INSTAGRAM_URL" "https://www.instagram.com/nobidanakripto/"
    socialIconBaseUrl :=
      dropEndSlashes
        (environment.text "MAILBLOCKS_SOCIAL_ICON_BASE_URL"
          "https://cdn.tools.unlayer.com/social/icons/circle-black")
    contactIconBaseUrl :=
      dropEndSlashes
        (environment.text "MAILBLOCKS_CONTACT_ICON_BASE_URL" "https://nobi.id/icons")
  }

end Settings

end EmailComposer
