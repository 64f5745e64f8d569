/-
This file says what a request and a response are and what every response carries so
that pages from anywhere may use the server: any page may send any request and read
any answer.
-/

import TreeWatch.Text.Utf8
import TreeWatch.Ticker

namespace TreeWatch.Http

/-- A request. Nobody here looks at its headers. -/
structure Request where
  /-- Methods are told apart with the case of their letters. -/
  method : String := "GET"
  /-- What is asked for, as it was sent: a path or a whole address. -/
  target : String
  body : Bytes := []

/-- The path of an address without its host: that after the authority, if there is a
scheme. An address that ends after its host has the path of the root. -/
def addressPath (address : List Char) : List Char :=
  match address with
  | '/' :: _ | ['*'] => address
  | _ =>
    match address.dropWhile (· != ':') with
    | ':' :: '/' :: '/' :: rest =>
      match rest.dropWhile (· != '/') with
      | [] => ['/']
      | path => path
    | _ => []

/-- The path a request asks for, without query and without decoding anything. -/
def Request.path (request : Request) : String :=
  String.ofList (addressPath (request.target.toList.takeWhile fun char =>
    char != '?' && char != '#'))

/-- What a response delivers. -/
inductive Body where
  /-- A text, all at once; an empty one delivers nothing. -/
  | text (content : String)
  /-- The newest snapshot again and again, for ever. -/
  | statuses (ticker : Ticker)

/-- A response. Headers are in the order of their names. -/
structure Response where
  status : Nat
  headers : List (String × String)
  body : Body

/-! ### What every response carries -/

/-- The header that tells caches what an answer depends on. -/
def vary : String × String :=
  ("vary", "origin, access-control-request-method, access-control-request-headers")

/-- The header that lists the methods of a path, if the path is known. -/
def allow : Option String → List (String × String)
  | some methods => [("allow", methods)]
  | none => []

/-- The answer to a page that asks what it may send: anything. -/
def permission (methods : Option String) : Response :=
  { status := 200
    headers :=
      [("access-control-allow-headers", "*"), ("access-control-allow-methods", "*"),
        ("access-control-allow-origin", "*")] ++ allow methods ++ [vary]
    body := .text "" }

/-- A response that any page may read, with the headers of its own. -/
def respond (status : Nat) (own : List (String × String)) (body : Body) : Response :=
  { status
    headers :=
      [("access-control-allow-origin", "*"), ("access-control-expose-headers", "*")] ++
        own ++ [vary]
    body }

/-- A response with content of a type. -/
def deliver (status : Nat) (kind : String) (body : Body) : Response :=
  respond status [("content-type", kind)] body

/-- The kinds of content. -/
def jsonContent : String := "application/json"

def pageContent : String := "text/html; charset=utf-8"

def textContent : String := "text/plain; charset=utf-8"

/-- The answer for a path that does not exist. -/
def notFound : Response := respond 404 [] (.text "")

/-- The answer to a method that a path does not have. -/
def notAllowed (methods : String) : Response := respond 405 (allow (some methods)) (.text "")

/-- The answer to a request that is longer than the server reads. -/
def tooLarge : Response :=
  deliver 413 textContent (.text "Failed to buffer the request body: length limit exceeded")

/-- The response without what it delivers. -/
def Response.withoutBody (response : Response) : Response := { response with body := .text "" }

end TreeWatch.Http
