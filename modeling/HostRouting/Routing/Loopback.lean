/-
**Loopback hosts.**

Three host names stand for the machine itself.  Connections to them always go directly, whatever the
rules say.

Main definitions:

* `loopbackHosts` — the names, in the order in which scripts test them;
* `isLoopback` — whether a host is one of them.
-/

set_option autoImplicit false

namespace HostRouting

/-- The names of the machine itself. -/
def loopbackHosts : List String := ["localhost", "127.0.0.1", "::1"]

/-- Whether a host is the machine itself. -/
def isLoopback (host : String) : Bool := loopbackHosts.contains host

end HostRouting
