/-! # Header values -/
namespace Telemetry.Web

/-- A header that was sent once or several times. -/
inductive HeaderValue where
  | one (value : String)
  | many (values : List String)

def HeaderValue.first? : HeaderValue → Option String
  | .one value => some value
  | .many values => values.head?

/-- Headers by lower case name. -/
abbrev Headers := List (String × HeaderValue)

/-- The first value of a header. -/
def Headers.first? (headers : Headers) (name : String) : Option String :=
  (headers.lookup name).bind HeaderValue.first?

end Telemetry.Web
