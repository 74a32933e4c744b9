/-
**The icon of a page.**

The toolbar icon of a tab shows whether its page goes through the proxy.  Blank tabs, pages of the
browser itself and everything without a host get the standard icon and no title.

Main definitions:

* `pageHost` — the host of a page to be decided on;
* `Icon` — the two icons, with the title beside them in `Badge`;
* `Snapshot.badge` — icon and title of a page under a snapshot.
-/

import HostRouting.Routing.Snapshot

set_option autoImplicit false

namespace HostRouting

/-! ### Pages -/

/-- How the URLs of the browser's own pages begin. -/
def internalBeginnings : List String :=
  ["chrome://", "edge://", "extensions://", "chrome-extension://", "chrome-error://"]

/-- Whether a URL is of a blank tab or of a page of the browser itself. -/
def isInternalPage (url : String) : Bool :=
  url == "" || url == "about:blank"
    || internalBeginnings.any fun b => b.toList.isPrefixOf url.toList

/-- The host of a page, if its URL has one that is to be decided on. -/
def pageHost (url : String) : Option String :=
  if isInternalPage url then none
  else (Url.parse url).toOption.bind fun u => u.host.map (·.plainText)

/-! ### Icons -/

/-- The two icons. -/
inductive Icon where
  /-- The page goes through the proxy. -/
  | proxy
  /-- It goes directly, or it is no page of the web. -/
  | standard
  deriving DecidableEq, Repr

/-- The word for an icon. -/
def Icon.text : Icon → String
  | .proxy => "proxy"
  | .standard => "default"

/-- An icon with its title. -/
structure Badge where
  icon : Icon
  title : Option String
  deriving DecidableEq, Repr

/-- The icon of tabs about which nothing is known. -/
def Badge.standard : Badge := ⟨.standard, none⟩

/-- The icon and title for a host under a decision. -/
def Badge.ofDecision (host : String) (d : Decision) : Badge :=
  ⟨if d.isProxy then .proxy else .standard, some (host ++ ": " ++ d.text)⟩

/-- The icon and title of a page under a snapshot. -/
def Snapshot.badge (s : Snapshot) (url : String) : Badge :=
  match pageHost url with
  | none => .standard
  | some host => .ofDecision host (s.decision host)

end HostRouting
