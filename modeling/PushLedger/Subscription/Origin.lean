/-!
# The origin of an endpoint

The path of a push endpoint is a secret. Logs show the endpoint up to the first slash after the
double slash of its scheme, and nothing at all of an endpoint without a scheme.
-/

namespace PushLedger.Origin

/-- What stands for an endpoint without a scheme. -/
def hidden : String := "<opaque>"

/-- The text up to and including the first `://`, and the text after it. -/
def splitScheme? : List Char → Option (List Char × List Char)
  | [] => none
  | c :: rest =>
      match c, rest with
      | ':', '/' :: '/' :: after => some ("://".toList, after)
      | c, rest => (splitScheme? rest).map fun (scheme, after) => (c :: scheme, after)

/-- The endpoint as logs may show it. -/
def redact (endpoint : String) : String :=
  match splitScheme? endpoint.toList with
  | none => hidden
  | some (scheme, after) => String.ofList (scheme ++ after.takeWhile (· ≠ '/'))

end PushLedger.Origin
