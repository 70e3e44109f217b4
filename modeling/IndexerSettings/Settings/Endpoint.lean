/-!
# Endpoints

The address of a node, and the port that its scheme implies when it names
none.
-/

namespace IndexerSettings.Endpoint

/-- The ports of the schemes that are known by what an address begins with. -/
def knownSchemes : List (String × Nat) := [("https:", 443), ("http:", 80)]

/-- The port that the scheme of an address implies, if the scheme is known. -/
def defaultPort? (endpoint : String) : Option Nat :=
  (knownSchemes.find? fun (scheme, _) =>
    scheme.toList.isPrefixOf endpoint.toList).map Prod.snd

/-- Whether an address names a port.  One colon belongs to the scheme, so a
second one is taken for that before a port. -/
def namesPort (endpoint : String) : Bool := 2 ≤ endpoint.toList.count ':'

/-- An address with the port that its scheme implies at its end, unless it
names one already. -/
def withDefaultPort (endpoint : String) : String :=
  if endpoint.isEmpty || namesPort endpoint then endpoint
  else match defaultPort? endpoint with
    | some port => endpoint ++ ":" ++ toString port
    | none => endpoint

end IndexerSettings.Endpoint
