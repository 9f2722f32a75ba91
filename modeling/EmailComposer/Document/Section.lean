import EmailComposer.Text.Basic

namespace EmailComposer

/-!
# Fixed sections

Around the blocks of an email stand fixed sections: a header, a help section, a
compliance notice and a footer.
-/

/-- The top of an email. -/
structure EmailHeader where
  logoUrl : Text
  logoHeight : Option Int
  showDarkModeVariant : Bool
  deriving Repr, DecidableEq

/-- The ways to get in contact. -/
inductive ContactType where
  | email
  | phone
  | whatsapp
  deriving Repr, DecidableEq

namespace ContactType

/-- All ways to get in contact. -/
def all : List ContactType :=
  [.email, .phone, .whatsapp]

/-- The name of a way to get in contact. -/
def name : ContactType → Text
  | .email => "email"
  | .phone => "phone"
  | .whatsapp => "whatsapp"

/-- The way to get in contact with a name. -/
def ofName? (name : Text) : Option ContactType :=
  all.find? fun type => type.name = name

end ContactType

/-- An entry of the help section. -/
structure ContactItem where
  type : ContactType
  label : Text
  value : Text
  href : Text
  deriving Repr, DecidableEq

/-- Where to find help. -/
structure HelpSection where
  title : Text
  description : Text
  contactItems : List ContactItem
  imageUrl : Option Text
  deriving Repr, DecidableEq

/-- The notice of the regulator. -/
structure ComplianceSection where
  text : Text
  sandboxNumber : Option Text
  backgroundColor : Option Text
  deriving Repr, DecidableEq

/-- The social platforms. -/
inductive SocialPlatform where
  | instagram
  | twitter
  | linkedin
  | facebook
  | whatsapp
  | email
  deriving Repr, DecidableEq

namespace SocialPlatform

/-- All social platforms. -/
def all : List SocialPlatform :=
  [.instagram, .twitter, .linkedin, .facebook, .whatsapp, .email]

/-- The name of a social platform. -/
def name : SocialPlatform → Text
  | .instagram => "instagram"
  | .twitter => "twitter"
  | .linkedin => "linkedin"
  | .facebook => "facebook"
  | .whatsapp => "whatsapp"
  | .email => "email"

/-- The social platform with a name. -/
def ofName? (name : Text) : Option SocialPlatform :=
  all.find? fun platform => platform.name = name

end SocialPlatform

/-- A link to a social platform. -/
structure SocialLink where
  platform : SocialPlatform
  url : Text
  deriving Repr, DecidableEq

/-- The bottom of an email. -/
structure EmailFooter where
  logoUrl : Text
  companyName : Text
  address : Text
  socialLinks : List SocialLink
  deriving Repr, DecidableEq

end EmailComposer
