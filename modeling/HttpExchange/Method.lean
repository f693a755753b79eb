import HttpExchange.Text.Blank

/-!
# Request methods

The methods a message may have. Their names are read without regard to case and
to blanks around them.
-/

namespace HttpExchange

/-- A request method. -/
inductive Method where
  | get | post | head | put | patch | delete | purge | options | trace | connect
  deriving DecidableEq, Repr

namespace Method

/-- All methods. -/
def all : List Method :=
  [.get, .post, .head, .put, .patch, .delete, .purge, .options, .trace, .connect]

/-- The name of a method on the wire. -/
def name : Method → Text
  | .get => "GET"
  | .post => "POST"
  | .head => "HEAD"
  | .put => "PUT"
  | .patch => "PATCH"
  | .delete => "DELETE"
  | .purge => "PURGE"
  | .options => "OPTIONS"
  | .trace => "TRACE"
  | .connect => "CONNECT"

/-- The method of a name. -/
def read? (t : Text) : Option Method :=
  all.find? fun m => m.name == Text.upper (Text.trim t)

/-- A name that belongs to no method. -/
structure Unknown where
  name : Text
  deriving DecidableEq, Repr

/-- What is wrong with an unknown name, in words. -/
def Unknown.message (e : Unknown) : Text := "unknown HTTP method: ".toList ++ e.name

/-- The method of a name, or the name that none has. -/
def read (t : Text) : Except Unknown Method :=
  match read? t with
  | some m => .ok m
  | none => .error ⟨t⟩

end Method

end HttpExchange
