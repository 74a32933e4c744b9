/-
**Events of tabs.**

A browser reports when a tab is activated, when a frame is about to navigate and when the status of
a tab changes.  The icon has to be refreshed on every activation, on navigation of the main frame,
and when a page begins to load.

Main definitions:

* `Tab` — the number of a tab;
* `TabEvent` — the three events;
* `TabEvent.refresh?` — the tab and the page to refresh.
-/

set_option autoImplicit false

namespace HostRouting

/-- The number of a tab. -/
abbrev Tab := Int

/-- What happens to a tab. -/
inductive TabEvent where
  /-- The tab becomes active. -/
  | activated (tab : Tab) (url : String)
  /-- Navigation is about to start in a frame. -/
  | beforeNavigate (tab : Tab) (frame : Int) (url : String)
  /-- The status of the tab changes. -/
  | updated (tab : Tab) (status : Option String) (url : String)
  deriving DecidableEq, Repr

/-- The number of the main frame of a tab. -/
def mainFrame : Int := 0

/-- The tab and the page to refresh, if an event calls for it. -/
def TabEvent.refresh? : TabEvent → Option (Tab × String)
  | .activated tab url => some (tab, url)
  | .beforeNavigate tab frame url => if frame = mainFrame then some (tab, url) else none
  | .updated tab status url => if status = some "loading" then some (tab, url) else none

end HostRouting
