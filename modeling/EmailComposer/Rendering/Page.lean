import EmailComposer.Document.Defaults
import EmailComposer.Rendering.Block
import EmailComposer.Rendering.Icon
import EmailComposer.Style.Stylesheet

namespace EmailComposer.Rendering

/-!
# Rendered emails

A document becomes one page: a head with the style sheet, then nested tables for the
header, the blocks, the help section, the compliance notice and the footer. Text of
the fixed sections stands as it is; what goes into an attribute is escaped.

The layout is the built-in one. The settings can name a directory with another, but that
directory is not looked at here: the pages are those of settings that leave it out.
-/

open EmailComposer.Text
open EmailComposer.Markup

/-- A text escaped for an attribute. -/
def attributeText (text : Text) : Text :=
  escapeWith attributeTable text

/-- A text, or another one in place of an empty one. -/
def orElse (text default : Text) : Text :=
  if text.isEmpty then
    default
  else
    text

/-- The lines down to the start of the body. -/
def headLines (document : Document) : List Text :=
  let beforeSheet : List Text :=
    ["<!DOCTYPE html>", "<html lang=\"en\">", "<head>", "  <meta charset=\"UTF-8\">",
      "  <meta name=\"viewport\" content=\"width=device-width, initial-scale=1.0\">",
      "  <title>" ++ document.templateType.name ++ "</title>"]
  let afterSheet : List Text :=
    ["</head>", "<body style=\"margin: 0; padding: 0; background-color: #f8fafc;\">",
      "  <table width=\"100%\" cellpadding=\"0\" cellspacing=\"0\" border=\"0\" " ++
        "bgcolor=\"#f8fafc\">"]
  beforeSheet ++ Stylesheet.lines ++ afterSheet

/-- The name of the company behind an email. -/
def companyName (settings : Settings) (document : Document) : Text :=
  orElse document.footer.companyName settings.companyName

/-- The logo of the header, or the name of the company in its place. -/
def logoLine (settings : Settings) (document : Document) : Text :=
  let header := document.header
  if header.logoUrl.isEmpty then
    "          <h1 style=\"margin: 0; font-size: 24px; font-weight: bold; color: #1a1a1a;\">" ++
      companyName settings document ++ "</h1>"
  else
    "          <img src=\"" ++ attributeText header.logoUrl ++
      "\" alt=\"Logo\" style=\"height: " ++
      ofInt (header.logoHeight.getD settings.headerLogoHeight) ++
      "px; max-width: 100%;\" />"

/-- The lines of the header. -/
def headerLines (settings : Settings) (document : Document) : List Text :=
  ["    <tr>", "      <td align=\"center\">",
    "        <span style=\"display:inline-block; margin:20px 0;\">",
    logoLine settings document, "        </span>", "      </td>", "    </tr>"]

/-- The blocks of a document, one table after another. -/
def body (document : Document) : Text :=
  joinWith "\n" (document.blocks.map block)

/-- The lines of the blocks, with the start of the table that holds all sections. -/
def bodyLines (document : Document) : List Text :=
  ["    <tr>", "      <td align=\"center\">",
    "        <table width=\"600\" cellpadding=\"0\" cellspacing=\"0\" border=\"0\" " ++
      "bgcolor=\"#ffffff\" style=\"max-width: 100%;\">",
    "          <tr>", "            <td style=\"padding: 20px;\">",
    "              " ++ body document, "            </td>", "          </tr>"]

/-- The title of a help section that has none. -/
def defaultHelpTitle : Text :=
  "Butuh Bantuan untuk Mulai?"

/-- The lines of one way to get in contact. -/
def contactLines (settings : Settings) (item : ContactItem) : List Text :=
  ["                    <table cellpadding=\"0\" cellspacing=\"0\" role=\"presentation\" " ++
      "style=\"margin-bottom: 8px;\">",
    "                      <tr>",
    "                        <td style=\"padding-right: 8px;\" valign=\"middle\">",
    "                          <img src=\"" ++ attributeText (settings.contactIcon item.type) ++
      "\" height=\"20\" width=\"20\" style=\"display: block;\" alt=\"" ++
      attributeText item.label ++ "\" />",
    "                        </td>", "                        <td valign=\"middle\">",
    "                          <a href=\"" ++ attributeText item.href ++
      "\" style=\"color: #008867; font-size: 14px; text-decoration: none;\">" ++ item.value ++
      "</a>",
    "                        </td>", "                      </tr>",
    "                    </table>"]

/-- The lines of the image of a help section, if it has one. -/
def helpImageLines (help : HelpSection) : List Text :=
  match help.imageUrl with
  | none => []
  | some [] => []
  | some url =>
      ["                  <td class=\"stack-column\" style=\"width: 40%; text-align: right;\" " ++
          "valign=\"middle\">",
        "                    <img src=\"" ++ attributeText url ++ "\" alt=\"" ++
          attributeText (orElse help.title "Help") ++
          "\" width=\"150\" style=\"border-radius: 5px; height: 150px; width: auto;\" />",
        "                  </td>"]

/-- The lines of a help section. -/
def helpLines (settings : Settings) (help : HelpSection) : List Text :=
  let start : List Text :=
    ["          <tr>", "            <td style=\"padding: 40px; background-color: #f6f6f6;\">",
      "              <table width=\"100%\" cellpadding=\"0\" cellspacing=\"0\" border=\"0\">",
      "                <tr>",
      "                  <td class=\"stack-column\" valign=\"top\" " ++
        "style=\"padding-right: 20px; width: 60%;\">",
      "                    <h3 style=\"font-size: 20px; font-weight: 600; color: #1a1a1a; " ++
        "margin-bottom: 16px;\">" ++ orElse help.title defaultHelpTitle ++ "</h3>",
      "                    <p style=\"line-height: 1.5; margin-top: 12px; color: #444; " ++
        "margin-bottom: 16px;\">" ++ help.description ++ "</p>"]
  let betweenColumns : List Text := ["                  </td>"]
  let ending : List Text :=
    ["                </tr>", "              </table>", "            </td>",
      "          </tr>"]
  start ++ help.contactItems.flatMap (contactLines settings) ++ betweenColumns ++
    helpImageLines help ++ ending

/-- The compliance notice of a document, or the one of the settings. -/
def compliance (settings : Settings) (document : Document) : ComplianceSection :=
  document.complianceSection.getD
    ⟨settings.complianceText, some settings.complianceSandboxNumber, none⟩

/-- The background of a compliance notice. -/
def complianceBackground (notice : ComplianceSection) : Text :=
  match notice.backgroundColor with
  | some color => if Color.isHexLine color then color else "#e4f4f0"
  | none => "#e4f4f0"

/-- The number of the notice in bold letters, if it has one. -/
def sandboxNumber (notice : ComplianceSection) : Text :=
  match notice.sandboxNumber with
  | none => []
  | some [] => []
  | some number => " <strong>" ++ number ++ "</strong>"

/-- The lines of a compliance notice. -/
def complianceLines (notice : ComplianceSection) : List Text :=
  let background := complianceBackground notice
  ["          <tr>",
    "            <td style=\"padding: 0; background-color: " ++ background ++ ";\">",
    "              <table width=\"100%\" cellpadding=\"12\" cellspacing=\"0\" border=\"0\" " ++
      "style=\"max-width: 600px; background-color: " ++ background ++ "; border-radius: 0;\">",
    "                <tr>",
    "                  <td align=\"center\" style=\"font-family: Arial, sans-serif; " ++
      "color: #006950; font-size: 15px; line-height: 1.5;\">",
    "                    " ++ notice.text ++ sandboxNumber notice,
    "                  </td>", "                </tr>", "              </table>",
    "            </td>", "          </tr>"]

/-- The lines of the logo of the footer, if it has one. -/
def footerLogoLines (settings : Settings) (document : Document) : List Text :=
  if document.footer.logoUrl.isEmpty then
    []
  else
    ["              <img src=\"" ++ attributeText document.footer.logoUrl ++
      "\" height=\"20\" alt=\"" ++ attributeText (companyName settings document) ++
      "\" style=\"margin-bottom: 8px\" />"]

/-- The line of the address of the company, if it is given. -/
def addressLines (footer : EmailFooter) : List Text :=
  if footer.address.isEmpty then
    []
  else
    ["              <p style=\"margin: 4px 0\">" ++ footer.address ++ "</p>"]

/-- The width that the icons of some links need. -/
def socialWidth (links : List SocialLink) : Text :=
  if links.isEmpty then
    "0"
  else
    ofNat (links.length * 37) ++ "px"

/-- The lines of one link to a social platform. A gap follows it unless it is the last
one. -/
def socialLines (settings : Settings) (isLast : Bool) (link : SocialLink) : List Text :=
  let gap : Text := if isLast then "0px" else "5px"
  let name := link.platform.name
  ["                          <table role=\"presentation\" border=\"0\" cellspacing=\"0\" " ++
      "cellpadding=\"0\" width=\"32\" height=\"32\" style=\"width:32px!important;" ++
      "height:32px!important;display:inline-block;border-collapse:collapse;" ++
      "table-layout:fixed;border-spacing:0;vertical-align:top;margin-right:" ++ gap ++ "\">",
    "                            <tr style=\"vertical-align:top\">",
    "                              <td valign=\"middle\" style=\"word-break:break-word;" ++
      "border-collapse:collapse!important;vertical-align:top\">",
    "                                <a href=\"" ++ attributeText link.url ++ "\" title=\"" ++
      name ++ "\" target=\"_blank\">",
    "                                  <img src=\"" ++
      attributeText (settings.socialIcon link.platform) ++ "\" alt=\"" ++ name ++
      "\" title=\"" ++ name ++ "\" width=\"32\" style=\"outline:none;text-decoration:none;" ++
      "clear:both;display:block!important;border:none;height:auto;float:none;" ++
      "max-width:32px!important\" />",
    "                                </a>", "                              </td>",
    "                            </tr>", "                          </table>"]

/-- The lines of all links to social platforms. -/
def socialLinkLines (settings : Settings) : List SocialLink → List Text
  | [] => []
  | link :: rest => socialLines settings rest.isEmpty link ++ socialLinkLines settings rest

/-- The lines of the footer. -/
def footerLines (settings : Settings) (document : Document) : List Text :=
  let links := document.footer.socialLinks
  let start : List Text :=
    ["          <tr>",
      "            <td class=\"responsive-padding-x\" style=\"padding: 30px 40px 20px 40px; " ++
        "background-color: #006950; color: white; font-size: 14px;\">"]
  let name : List Text :=
    ["              <p style=\"margin: 4px 0; font-weight: 700;\">" ++
      companyName settings document ++ "</p>"]
  let linksStart : List Text :=
    ["              <table style=\"font-family:'Open Sans',sans-serif\" " ++
        "role=\"presentation\" cellpadding=\"0\" cellspacing=\"0\" width=\"100%\" border=\"0\">",
      "                <tr>",
      "                  <td align=\"left\" style=\"word-break:break-word;padding-top:10px;" ++
        "font-family:'Open Sans',sans-serif\">",
      "                    <table role=\"presentation\" cellpadding=\"0\" cellspacing=\"0\" " ++
        "border=\"0\" style=\"max-width:" ++ socialWidth links ++ ";direction:ltr\">",
      "                      <tr>", "                        <td align=\"left\">"]
  let ending : List Text :=
    ["                        </td>", "                      </tr>",
      "                    </table>", "                  </td>", "                </tr>",
      "              </table>", "            </td>", "          </tr>"]
  start ++ footerLogoLines settings document ++ name ++ addressLines document.footer ++
    linksStart ++ socialLinkLines settings links ++ ending

/-- The lines behind the last section. -/
def tailLines : List Text :=
  ["        </table>", "      </td>", "    </tr>", "  </table>", "</body>", "</html>"]

/-- The page of a document. -/
def page (settings : Settings) (document : Document) : Text :=
  let help := (document.helpSection.map (helpLines settings)).getD []
  joinWith "\n"
    (headLines document ++ headerLines settings document ++ bodyLines document ++ help ++
      complianceLines (compliance settings document) ++ footerLines settings document ++
      tailLines)

end EmailComposer.Rendering
