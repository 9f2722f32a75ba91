import EmailComposer.Json.Value
import EmailComposer.Settings.Basic

namespace EmailComposer

/-!
# Settings as JSON
-/

open EmailComposer.Json

/-- All settings under their names. -/
def Settings.dump (settings : Settings) : Value :=
  let members : Members :=
    [("LOG_LEVEL", .string settings.logLevel), ("JSON_LOGS", .boolean settings.jsonLogs),
      ("TEMPLATES_DIR", .string settings.templatesDirectory),
      ("HEADER_LOGO_URL", .string settings.headerLogoUrl),
      ("HEADER_LOGO_HEIGHT", .integer settings.headerLogoHeight),
      ("HELP_TITLE", .string settings.helpTitle),
      ("HELP_DESCRIPTION", .string settings.helpDescription),
      ("HELP_IMAGE_URL", .string settings.helpImageUrl),
      ("CONTACT_EMAIL", .string settings.contactEmail),
      ("CONTACT_WHATSAPP_DISPLAY", .string settings.contactChatDisplay),
      ("CONTACT_WHATSAPP_NUMBER", .string settings.contactChatNumber),
      ("COMPLIANCE_TEXT", .string settings.complianceText),
      ("COMPLIANCE_SANDBOX_NUMBER", .string settings.complianceSandboxNumber),
      ("FOOTER_LOGO_URL", .string settings.footerLogoUrl),
      ("COMPANY_NAME", .string settings.companyName),
      ("COMPANY_ADDRESS", .string settings.companyAddress),
      ("INSTAGRAM_URL", .string settings.instagramUrl),
      ("SOCIAL_ICON_BASE_URL", .string settings.socialIconBaseUrl),
      ("CONTACT_ICON_BASE_URL", .string settings.contactIconBaseUrl)]
  .object members

end EmailComposer
