import EmailComposer.Document.Basic
import EmailComposer.Settings.Basic

namespace EmailComposer.Settings

/-!
# Fixed sections by default

The fixed sections that the settings describe.
-/

open EmailComposer.Text

/-- The greeting that a chat link begins with. -/
def chatGreeting : Text :=
  "Halo%20tim%20NOBI%2C%20saya%20butuh%20bantuan%20mengenai...%20Mohon%20dibantu%20ya." ++
    "%20Terima%20kasih."

/-- The address that a mail link leads to. -/
def mailLink (settings : Settings) : Text :=
  "mailto:" ++ settings.contactEmail

/-- The address that a chat link leads to. -/
def chatLink (settings : Settings) : Text :=
  "https://wa.me/" ++ settings.contactChatNumber

/-- The header by default. -/
def header (settings : Settings) : EmailHeader where
  logoUrl := settings.headerLogoUrl
  logoHeight := some settings.headerLogoHeight
  showDarkModeVariant := false

/-- The help section by default. -/
def helpSection (settings : Settings) : HelpSection where
  title := settings.helpTitle
  description := settings.helpDescription
  contactItems :=
    [⟨.email, "Email", settings.contactEmail, settings.mailLink⟩,
      ⟨.whatsapp, "WhatsApp", settings.contactChatDisplay, settings.chatLink⟩]
  imageUrl := some settings.helpImageUrl

/-- The compliance notice by default. -/
def complianceSection (settings : Settings) : ComplianceSection where
  text := settings.complianceText
  sandboxNumber := some settings.complianceSandboxNumber
  backgroundColor := none

/-- The footer by default. -/
def footer (settings : Settings) : EmailFooter where
  logoUrl := settings.footerLogoUrl
  companyName := settings.companyName
  address := settings.companyAddress
  socialLinks :=
    [⟨.email, settings.mailLink⟩, ⟨.instagram, settings.instagramUrl⟩,
      ⟨.whatsapp, settings.chatLink ++ "?text=" ++ chatGreeting⟩]

end EmailComposer.Settings
