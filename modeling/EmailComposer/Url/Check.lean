import EmailComposer.Url.Split

namespace EmailComposer.Url

/-!
# Which URLs are accepted

Two checks on URLs. The protocol check looks at the beginning only and guards
attributes and link tokens. The usability check takes the URL apart and guards
buttons and images. A link inside text must also be free of every character that
could end its attribute.
-/

open EmailComposer.Text

/-- The beginnings of URLs that may be linked. -/
def allowedProtocols : List Text :=
  ["http://", "https://", "mailto:"]

/-- The schemes of URLs that may be linked. -/
def allowedSchemes : List Text :=
  ["http", "https", "mailto"]

/-- The beginning of a chat link. -/
def chatLinkStart : Text :=
  "https://wa.me/"

/-- The text begins with an allowed protocol, blanks and letter case aside. -/
def hasAllowedProtocol (text : Text) : Bool :=
  allowedProtocols.any fun protocol => startsWith protocol (lower (strip text))

/-- The URL has an allowed scheme, or the secure one if that is required, and
names what it leads to: an address to write to, or a host and a sound port. -/
def isUsable (requireSecure : Bool) (text : Text) : Bool :=
  if text.isEmpty || text.any isBlank then
    false
  else
    match split? text with
    | none => false
    | some url =>
        let isSchemeAllowed : Bool :=
          if requireSecure then
            url.scheme = "https"
          else
            url.scheme ∈ allowedSchemes
        if !isSchemeAllowed then
          false
        else if url.scheme = "mailto" then
          !url.path.isEmpty
        else
          let (host, port) := hostAndPort url.authority
          isPort port && !host.isEmpty

/-- A character that could end an attribute value or open a tag. -/
def isUnsafeInLink (char : Char) : Bool :=
  isBlank char || char ∈ ['"', '\x27', '<', '>', '\x60']

/-- The text can be the target of a link inside text. -/
def isSafeLink (text : Text) : Bool :=
  !text.isEmpty && !text.any isUnsafeInLink &&
    (hasAllowedProtocol text || startsWith chatLinkStart text)

end EmailComposer.Url
