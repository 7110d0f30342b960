import Roomwatch.Exposition.Page

/-! The scrape endpoint.

One path serves the page of a recorder, `/metrics`, compared character by
character. `GET` answers with the page and `HEAD` with its headers alone; any
other method is refused with the list of those two, and any other path is not
found. Only an answer with a page reads the recorder. -/
namespace Roomwatch

open Exposition (Page)

/-- What follows the scheme and the authority of an address, where it has them. -/
def afterAuthority : List Char → List Char
  | ':' :: '/' :: '/' :: rest => rest.dropWhile fun c => c ≠ '/' && c ≠ '?' && c ≠ '#'
  | _ :: rest => afterAuthority rest
  | [] => []

/-- The path of an address: without scheme, authority, query and fragment. -/
def pathOf (address : List Char) : List Char :=
  let rest := match address with
    | '/' :: _ => address
    | _ => afterAuthority address
  rest.takeWhile fun c => c ≠ '?' && c ≠ '#'

inductive Route where
  | page | headers | refused | missing
deriving DecidableEq, Repr

def Route.of (method address : String) : Route :=
  if pathOf address.toList = "/metrics".toList then
    if method = "GET" then .page
    else if method = "HEAD" then .headers
    else .refused
  else .missing

/-- Whether a route reads the recorder. -/
def Route.serves : Route → Bool
  | .page | .headers => true
  | .refused | .missing => false

structure Response where
  status : Nat
  contentType : Option String
  allow : Option String
  contentLength : Nat
  body : Option Page
deriving Repr

/-- The answer of a route, given the page that would be shown. Its length is that of the
whole page, whether or not the page comes with it. -/
def Route.respond (route : Route) (page : Page) : Response :=
  let served (body : Option Page) : Response :=
    ⟨200, some "text/plain; charset=utf-8", none, page.text.utf8ByteSize, body⟩
  match route with
  | .page => served (some page)
  | .headers => served none
  | .refused => ⟨405, none, some "GET,HEAD", 0, none⟩
  | .missing => ⟨404, none, none, 0, none⟩

end Roomwatch
