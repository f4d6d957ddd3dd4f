import OpenApiClient.Schema.Basic

/-!
# Operations

What a client does with one path and one method: the parameters it takes, the body it sends and the
responses it may get.
-/

namespace OpenApiClient

inductive Method where
  | get
  | post
  | put
  | patch
  | delete
  | head
  | options
  | trace
  deriving DecidableEq, Repr

namespace Method

def all : List Method := [.get, .post, .put, .patch, .delete, .head, .options, .trace]

def word : Method → String
  | .get => "get"
  | .post => "post"
  | .put => "put"
  | .patch => "patch"
  | .delete => "delete"
  | .head => "head"
  | .options => "options"
  | .trace => "trace"

def capitals (method : Method) : String := method.word.toUpper

def ofWord? (word : String) : Option Method := all.find? (·.word = word)

end Method

inductive Place where
  | query
  | header
  | path
  | cookie
  | body
  deriving DecidableEq, Repr

namespace Place

def all : List Place := [.query, .header, .path, .cookie, .body]

def word : Place → String
  | .query => "query"
  | .header => "header"
  | .path => "path"
  | .cookie => "cookie"
  | .body => "body"

def ofWord? (word : String) : Option Place := all.find? (·.word = word)

end Place

structure Parameter where
  name : String
  place : Place
  required : Bool := false
  description : Option String := none
  schema : Option Schema := none
  deriving Repr

structure RequestBody where
  required : Bool := false
  description : Option String := none
  mediaType : Option String := none
  schema : Option Schema := none
  deriving Repr

structure Response where
  status : String
  description : Option String := none
  mediaType : Option String := none
  schema : Option Schema := none
  deriving Repr

/-- What a client does with one path and one method. -/
structure Operation where
  path : String
  method : Method
  name : Option String := none
  summary : Option String := none
  description : Option String := none
  deprecated : Bool := false
  parameters : List Parameter := []
  body : Option RequestBody := none
  responses : List Response := []
  deriving Repr

end OpenApiClient
