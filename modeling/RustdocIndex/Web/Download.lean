import RustdocIndex.Text.Numeral
import RustdocIndex.Text.Utf8
import RustdocIndex.Version.Basic
import RustdocIndex.Web.Url

/-! Downloads: a limited number of attempts, and a limited size. -/
namespace RustdocIndex

/-- An answer that arrived. -/
structure Response where
  status : Int
  /-- The address that redirects led to. -/
  url : String
  /-- The length that the header declares. -/
  declaredLength : Option String
  body : Bytes

/-- A failure that may pass. -/
inductive Outage
  | connection
  | timeout
  deriving DecidableEq

def Outage.message (_ : Outage) : String := "connection failed"

/-- What a server answers to a request for an address, after a number of earlier requests for it. -/
abbrev Server := String → Nat → Except Outage Response

inductive WebError
  | outage (o : Outage)
  | status (url : String) (code : Int)
  | declaredTooLarge (url : String) (length : String)
  | tooLarge (url : String)
  | invalidLength (e : IntegerError)
  | noIndexPath (page : String)
  | invalidIndexName (path : String)
  | version (e : VersionError)
  | invalidUrl (p : Url.Problem)

def WebError.message : WebError → String
  | outage o => o.message
  | status url code => s!"GET {url} failed: HTTP {code}"
  | declaredTooLarge url length => s!"Response from {url} too large: {length} bytes"
  | tooLarge url => s!"Download from {url} exceeded size limit"
  | invalidLength e => e.message
  | noIndexPath page => s!"couldn't find the index path in {page}"
  | invalidIndexName path => s!"expected `search-index<X.X.X>.js`, got {quote path}"
  | version e => e.message
  | invalidUrl p => p.message

/-- What a download may cost. -/
structure Limits where
  maxSize : Int
  chunkSize : Nat
  attempts : Nat

/-- A computation that makes requests and keeps the list of them. -/
abbrev Web := ExceptT WebError (StateM (List String))

namespace Web

/-- The chunks in which a body arrives. -/
def chunks (size : Nat) (body : Bytes) : List Bytes :=
  match body with
  | [] => []
  | b :: body => (b :: body.take (size - 1)) :: chunks size (body.drop (size - 1))
termination_by body.length
decreasing_by exact Nat.lt_succ_of_le (List.drop_sublist ..).length_le

/-- The body of chunks, of which `received` bytes came before. It is given up as soon as it is
larger than the limit. -/
def collect (limit : Int) (received : Nat) : List Bytes → Option Bytes
  | [] => some []
  | chunk :: more =>
    let received := received + chunk.length
    if limit < received then none else (collect limit received more).map (chunk ++ ·)

/-- A length that is declared must keep the limit too. -/
def checkDeclared (limits : Limits) (url : String) : Option String → Except WebError Unit
  | none | some "" => .ok ()
  | some length =>
    match readInteger length with
    | .error e => .error (.invalidLength e)
    | .ok n => if limits.maxSize < n then .error (.declaredTooLarge url length) else .ok ()

/-- The final address and the body of a response. -/
def receive (limits : Limits) (url : String) (r : Response) : Except WebError (String × Bytes) :=
  if r.status ≠ 200 then .error (.status url r.status)
  else do
    checkDeclared limits url r.declaredLength
    match collect limits.maxSize 0 (chunks limits.chunkSize r.body) with
    | some body => pure (r.url, body)
    | none => .error (.tooLarge url)

/-- The answer to one request. -/
def request (server : Server) (url : String) : Web (Except Outage Response) := do
  let earlier ← get
  set (earlier ++ [url])
  pure (server url (earlier.count url))

/-- Requests an address, and after outages up to `more` times again. -/
def attempt (server : Server) (limits : Limits) (url : String) : Nat → Web (String × Bytes)
  | 0 => do
    match ← request server url with
    | .ok r => receive limits url r
    | .error o => throw (.outage o)
  | more + 1 => do
    match ← request server url with
    | .ok r => receive limits url r
    | .error _ => attempt server limits url more

def download (server : Server) (limits : Limits) (url : String) : Web (String × Bytes) :=
  attempt server limits url (limits.attempts - 1)

end Web

end RustdocIndex
