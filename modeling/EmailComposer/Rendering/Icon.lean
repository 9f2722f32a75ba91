import EmailComposer.Document.Section
import EmailComposer.Settings.Basic

namespace EmailComposer.Settings

/-!
# Icons

Where the icons of contacts and social platforms are found.
-/

open EmailComposer.Text

/-- The file of the icon of a way to get in contact. -/
def contactIconFile : ContactType → Text
  | .email => "icon-mail.png"
  | .phone => "icon-phone.png"
  | .whatsapp => "icon-phone.png"

/-- The URL of the icon of a way to get in contact. -/
def contactIcon (settings : Settings) (type : ContactType) : Text :=
  settings.contactIconBaseUrl ++ "/" ++ contactIconFile type

/-- The URL of the icon of a social platform. -/
def socialIcon (settings : Settings) (platform : SocialPlatform) : Text :=
  settings.socialIconBaseUrl ++ "/" ++ platform.name ++ ".png"

/-- The URL of a contact icon by name; an unknown name has none. -/
def contactIconByName (settings : Settings) (name : Text) : Text :=
  match ContactType.ofName? name with
  | some type => settings.contactIcon type
  | none => []

/-- The URL of a social icon by name; an unknown name has none. -/
def socialIconByName (settings : Settings) (name : Text) : Text :=
  match SocialPlatform.ofName? name with
  | some platform => settings.socialIcon platform
  | none => []

end EmailComposer.Settings
