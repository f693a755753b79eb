import HttpExchange.Headers.Basic
import HttpExchange.Numeral.Integer

/-!
# Cookies

A cookie is written as a value of `Set-Cookie`, with its attributes after it. It
is read from the `Cookie` fields, which hold many cookies each, or else from the
`Set-Cookie` fields, which hold one each.
-/

namespace HttpExchange

/-- The attributes of a cookie. -/
structure CookieParams where
  expires : Option Text := none
  maxAge : Option Int := none
  path : Option Text := none
  domain : Option Text := none
  secure : Bool := false
  httpOnly : Bool := false
  sameSite : Option Text := none
  deriving DecidableEq, Repr

/-- An attribute with a value, when there is one. -/
def CookieParams.valued (name : Text) (value : Option Text) : List Text :=
  value.toList.map fun v => name ++ '=' :: v

/-- An attribute without a value, when it is on. -/
def CookieParams.flag (name : Text) (on : Bool) : List Text := if on then [name] else []

/-- The attributes as they are written. -/
def CookieParams.attributes (p : CookieParams) : List Text :=
  valued "Expires" p.expires ++ valued "Max-Age" (p.maxAge.map Numeral.ofInt) ++
    valued "Path" p.path ++ valued "Domain" p.domain ++ flag "Secure" p.secure ++
    flag "HttpOnly" p.httpOnly ++ valued "SameSite" p.sameSite

namespace Headers

/-- The value of `Set-Cookie` that sets a cookie. -/
def cookieText (name value : Text) (params : CookieParams) : Text :=
  Text.joinWith "; " ((name ++ '=' :: value) :: params.attributes)

/-- Adds a cookie. -/
def setCookie (name value : Text) (params : CookieParams) (hs : Headers) : Headers :=
  append "Set-Cookie" (cookieText name value params) hs

/-- The first of some segments that assigns a value to `name`. -/
def assigned? (name : Text) (segments : List Text) : Option Text :=
  segments.findSome? fun segment =>
    match Text.splitFirst '=' (Text.trim segment) with
    | some (k, v) => if Text.trim k = name then some (Text.trim v) else none
    | none => none

/-- The value of a cookie. -/
def cookie? (name : Text) (hs : Headers) : Option Text :=
  assigned? name ((valuesOf "Cookie" hs).flatMap (Text.splitOn ';')) <|>
    assigned? name ((valuesOf "Set-Cookie" hs).filterMap fun line => (Text.splitOn ';' line).head?)

end Headers

end HttpExchange
