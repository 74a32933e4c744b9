/-
**Auto-configuration scripts.**

A browser asks a script for each host where its connections go.  The script has every rule and the
proxy written into it as literals, lets the loopback hosts go directly before anything else, and
remembers its answers.

Main definitions:

* `Script` — what a script is made of;
* `Script.lines`, `Script.text` — its lines and its text.
-/

import HostRouting.Routing.Loopback
import HostRouting.Routing.Proxy
import HostRouting.Script.Expr

set_option autoImplicit false

namespace HostRouting

/-- What a script is made of. -/
structure Script where
  rules : RuleSet
  mode : Mode
  proxy : Proxy
  deriving DecidableEq, Repr

namespace Script

/-- The condition under which a host is the machine itself. -/
def loopback : Expr := Expr.anyOf (loopbackHosts.map .equals)

/-- The expression that says whether a host goes through the proxy, from whether it is matched. -/
def isProxyText : Mode → String
  | .whitelist => "!matched"
  | .blacklist => "matched"

/-- The remark that heads a script. -/
def remark (s : Script) : String :=
  "// mode=" ++ s.mode.text ++ ", rules=" ++ String.ofList (Text.decimal s.rules.size)
    ++ ", proxy=" ++ s.proxy.text

/-- The lines of a script. -/
def lines (s : Script) : List String := [
  s.remark,
  "var cache = Object.create(null);",
  "function FindProxyForURL(url, host) \x7b",
  "  if (" ++ loopback.text ++ ") \x7b",
  "    return \"DIRECT\";",
  "  \x7d",
  "  if (host in cache) \x7b",
  "    return cache[host];",
  "  \x7d",
  "  var matched = " ++ (matched s.rules).text ++ ";",
  "  var isProxy = " ++ isProxyText s.mode ++ ";",
  "  var result = isProxy ? \"PROXY " ++ s.proxy.hostPort ++ "\" : \"DIRECT\";",
  "  cache[host] = result;",
  "  return result;",
  "\x7d"]

/-- The text of a script. -/
def text (s : Script) : String := String.join (s.lines.map (· ++ "\n"))

end Script

end HostRouting
