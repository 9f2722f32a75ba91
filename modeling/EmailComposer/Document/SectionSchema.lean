import EmailComposer.Block.Schema
import EmailComposer.Document.Section

namespace EmailComposer

/-!
# Fixed sections as JSON
-/

open EmailComposer.Text
open EmailComposer.Json
open EmailComposer.Schema

namespace EmailHeader

/-- Reads a header. -/
def read : Reader EmailHeader :=
  model "EmailHeader" fun record =>
    EmailHeader.mk <$> record.withDefault "logo_url" [] text
      <*> record.maybe "logo_height" integer
      <*> record.withDefault "show_dark_mode_variant" false boolean

/-- A header as an object. -/
def dump (header : EmailHeader) : Value :=
  dumpMembers .camel
    [("logo_url", .string header.logoUrl), ("logo_height", .ofInt? header.logoHeight),
      ("show_dark_mode_variant", .boolean header.showDarkModeVariant)]

end EmailHeader

/-- Ways to get in contact by name. -/
def ContactType.options : List (Text × ContactType) :=
  all.map fun type => (type.name, type)

namespace ContactItem

/-- Reads an entry of the help section. -/
def read : Reader ContactItem :=
  model "ContactItem" fun record =>
    ContactItem.mk <$> record.required "type" (choice ContactType.options)
      <*> record.required "label" text
      <*> record.required "value" text
      <*> record.required "href" text

/-- An entry of the help section as an object. -/
def dump (item : ContactItem) : Value :=
  .object [("type", .string item.type.name), ("label", .string item.label),
    ("value", .string item.value), ("href", .string item.href)]

end ContactItem

namespace HelpSection

/-- Reads a help section. -/
def read : Reader HelpSection :=
  model "HelpSection" fun record =>
    HelpSection.mk <$> record.withDefault "title" [] text
      <*> record.withDefault "description" [] text
      <*> record.withDefault "contact_items" [] (list ContactItem.read)
      <*> record.maybe "image_url" text

/-- A help section as an object. -/
def dump (help : HelpSection) : Value :=
  dumpMembers .camel
    [("title", .string help.title), ("description", .string help.description),
      ("contact_items", .array (help.contactItems.map ContactItem.dump)),
      ("image_url", .ofText? help.imageUrl)]

end HelpSection

namespace ComplianceSection

/-- Reads a compliance notice. -/
def read : Reader ComplianceSection :=
  model "ComplianceSection" fun record =>
    ComplianceSection.mk <$> record.withDefault "text" [] Schema.text
      <*> record.maybe "sandbox_number" Schema.text
      <*> record.maybe "background_color" Schema.text

/-- A compliance notice as an object. -/
def dump (compliance : ComplianceSection) : Value :=
  dumpMembers .camel
    [("text", .string compliance.text), ("sandbox_number", .ofText? compliance.sandboxNumber),
      ("background_color", .ofText? compliance.backgroundColor)]

end ComplianceSection

/-- Social platforms by name. -/
def SocialPlatform.options : List (Text × SocialPlatform) :=
  all.map fun platform => (platform.name, platform)

namespace SocialLink

/-- Reads a link to a social platform. -/
def read : Reader SocialLink :=
  model "SocialLink" fun record =>
    SocialLink.mk <$> record.required "platform" (choice SocialPlatform.options)
      <*> record.required "url" text

/-- A link to a social platform as an object. -/
def dump (link : SocialLink) : Value :=
  .object [("platform", .string link.platform.name), ("url", .string link.url)]

end SocialLink

namespace EmailFooter

/-- Reads a footer. -/
def read : Reader EmailFooter :=
  model "EmailFooter" fun record =>
    EmailFooter.mk <$> record.withDefault "logo_url" [] text
      <*> record.withDefault "company_name" [] text
      <*> record.withDefault "address" [] text
      <*> record.withDefault "social_links" [] (list SocialLink.read)

/-- A footer as an object. -/
def dump (footer : EmailFooter) : Value :=
  dumpMembers .camel
    [("logo_url", .string footer.logoUrl), ("company_name", .string footer.companyName),
      ("address", .string footer.address),
      ("social_links", .array (footer.socialLinks.map SocialLink.dump))]

end EmailFooter

end EmailComposer
