import OperatorConsole.Http.MediaType
import OperatorConsole.Http.Target
import OperatorConsole.Session
import OperatorConsole.Url.Reference

/-!
# Sending requests

A request goes to a service, and on to wherever the service redirects it.  Every
request takes along the cookies for its URL, and every response may set some.
What a service does may depend on all requests that it has had.
-/

namespace OperatorConsole.Http

/-- A service, the requests that it has had, oldest first, and the session that
they belong to. -/
structure Link where
  service : List Request → Answer
  sent : List Request
  session : Session

/-- Why a request has no response. -/
inductive SendFault where
  | transport
  | timeout
deriving DecidableEq, Repr

/-- A response and the URL that it came from. -/
structure Arrival where
  url : Url
  response : Response
deriving DecidableEq, Repr

namespace Link

/-- Hand one request to the service and take the cookies of its answer. -/
def exchange (link : Link) (request : Request) : Answer × Link :=
  let sent := link.sent ++ [request]
  let answer := link.service sent
  let session :=
    match answer with
    | .response response =>
        link.session.receiveAll (response.fields "set-cookie") request.url
    | .closed | .silent => link.session
  (answer, { link with sent := sent, session := session })

/-- The cookies that go along with a request to a URL.  On one host those of
the request before stay if there are no others. -/
def cookieFor (link : Link) (url : Url) (before : Option Request) :
    Option String :=
  (link.session.sentHeader? url).or
    (before.bind fun request =>
      if request.url.host? = url.host? ∧ request.url.port? = url.port? then
        request.cookie
      else none)

end Link

/-- Statuses that ask for the same request elsewhere, or for a plain one. -/
def redirects (status : Nat) : Bool :=
  [301, 302, 303, 307, 308].contains status

/-- The URL that a response redirects a request to, if a request can ask for
it. -/
def Response.redirect? (response : Response) (url : Url) : Option Url :=
  if redirects response.status then
    (response.fields "location").head?.bind fun location =>
      (url.join location).toOption.filter Target.isFit
  else none

def isWeb (url : Url) : Bool :=
  url.scheme == "http" || url.scheme == "https"

/-- The request that follows a redirect, without its cookies.  Its content is
dropped unless the status says that it is to be sent again. -/
def Request.redirected (request : Request) (status : Nat) (url : Url) :
    Request :=
  if status = 307 ∨ status = 308 then
    { request with url := url, cookie := none }
  else
    { request with method := .get, url := url, cookie := none, content := none }

/-- The most requests that one call may take. -/
def mostRequests : Nat := 10

/-- Send a request and follow redirects for as many requests as are left. -/
def follow : Nat → Request → Link → Except SendFault Arrival × Link
  | 0, _, link => (.error .transport, link)
  | left + 1, request, link =>
      match link.exchange request with
      | (.closed, link) => (.error .transport, link)
      | (.silent, link) => (.error .timeout, link)
      | (.response response, link) =>
          match response.redirect? request.url with
          | none => (.ok ⟨request.url, response⟩, link)
          | some url =>
              if isWeb url then
                let next := request.redirected response.status url
                follow left
                  { next with cookie := link.cookieFor url (some request) }
                  link
              else (.error .transport, link)

/-- Make a call. -/
def Link.send (link : Link) (userAgent : String) (method : Method) (url : Url)
    (content : Option Content) : Except SendFault Arrival × Link :=
  if Target.isFit url then
    follow mostRequests
      ⟨method, url, userAgent, link.cookieFor url none, content⟩ link
  else (.error .transport, link)

end OperatorConsole.Http
