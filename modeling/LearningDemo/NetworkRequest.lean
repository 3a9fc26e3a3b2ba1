/-
`NetworkRequest` of `iOS/Objective-C/functionalProgram/network`: the object,
the builder calls that fill it in, and what is made of it before it is sent.

What the code takes from Foundation is a structure of functions, and an
`id`, an `NSData` and an `NSURL` are values of arbitrary types. The response
block is kept as whether there is one: nothing else about it is looked at.
-/
import Mathlib.Tactic.Ring

namespace LearningDemo

/-- An exception the code does not catch. -/
inductive NSException where
  | invalidArgument
  | range
  deriving DecidableEq, Repr

structure NSError where
  domain : String
  code : Int
  userInfo : List (String × String)
  deriving DecidableEq, Repr

def NSURLErrorCancelled : Int := -999

/-- What Foundation and the device answer. -/
structure Foundation (Data Obj URL : Type) where
  /-- Its error argument is set exactly when there is no value. -/
  JSONObjectWithData : Data → Except NSError Obj
  /-- It raises for what no JSON can be made of. -/
  dataWithJSONObject : Obj → Except NSException (Except NSError Data)
  enumerateKeysAndObjects : Obj → List (Obj × Obj)
  /-- An object under `%@`. -/
  description : Obj → String
  stringByAppendingPathComponent : String → String → String
  stringByAddingPercentEscapes : String → Option String
  URLWithString : String → Option URL
  bundleIdentifier : Option String
  bundleVersion : Option String
  idfa : String
  timeIntervalSince1970 : String
  iphoneType : Option String

structure NSMutableURLRequest (Data URL : Type) where
  url : Option URL
  HTTPMethod : Option String := some "GET"
  HTTPBody : Option Data := none
  HTTPShouldUsePipelining : Bool := false
  allHTTPHeaderFields : List (String × String) := []

/-- `setValue:forHTTPHeaderField:`. Field names are compared without their case. -/
def NSMutableURLRequest.setValue {Data URL : Type} (request : NSMutableURLRequest Data URL)
    (header : String × String) : NSMutableURLRequest Data URL :=
  { request with allHTTPHeaderFields :=
      request.allHTTPHeaderFields.filter (fun h => h.1.toLower != header.1.toLower) ++ [header] }

inductive NNRequestType where
  | JSON
  | upload
  | download
  deriving DecidableEq, Repr

structure NetworkRequest (Data Obj URL : Type) where
  requestType : NNRequestType := .JSON
  httpMethod : Option String := none
  urlString : Option String := none
  parameters : Option Obj := none
  urlRequest : Option (NSMutableURLRequest Data URL) := none
  responseBlock : Bool := false
  shouldCancel : Bool := false
  callbackWhenCancelled : Bool := false

namespace NetworkRequest

variable {Data Obj URL : Type}

/-! ## The builder calls -/

/-- The calls that come before `response`, and the property a caller can set. -/
inductive Call (Obj : Type) where
  | GET
  | POST
  | upload
  | download
  | HTTPMethod (method : Option String)
  | URL (urlString : Option String)
  | params (params : Option Obj)
  | setCallbackWhenCancelled (value : Bool)
  deriving DecidableEq, Repr

def call (self : NetworkRequest Data Obj URL) : Call Obj → NetworkRequest Data Obj URL
  | .GET => { self with requestType := .JSON, httpMethod := some "GET" }
  | .POST => { self with requestType := .JSON, httpMethod := some "POST" }
  | .upload => { self with requestType := .upload }
  | .download => { self with requestType := .download }
  | .HTTPMethod method => { self with httpMethod := method }
  | .URL urlString =>
    match urlString with
    | some url => if url ≠ "" then { self with urlString := some url } else self
    | none => self
  | .params params => if params.isSome then { self with parameters := params } else self
  | .setCallbackWhenCancelled value => { self with callbackWhenCancelled := value }

/-- `NetWorkRequest()` and a chain of calls. -/
def build (calls : List (Call Obj)) : NetworkRequest Data Obj URL := calls.foldl call {}

/-! ## Configuration -/

def apiDomains : List String := ["http://39.105.20.33:8000/api/v1"]

def hasPrefix (s start : String) : Bool := start.toList.isPrefixOf s.toList

/-- The getter `urlString`: a relative string is completed once and kept so. -/
def getUrlString (F : Foundation Data Obj URL) (self : NetworkRequest Data Obj URL) :
    NetworkRequest Data Obj URL × Option String :=
  match self.urlString with
  | none => (self, none)
  | some urlString =>
    if urlString = "" then (self, none)
    else if hasPrefix urlString "http://" || hasPrefix urlString "https://" then (self, some urlString)
    else
      let completed := do
        let currentDomain ← apiDomains.head?
        F.stringByAddingPercentEscapes (F.stringByAppendingPathComponent currentDomain urlString)
      ({ self with urlString := completed }, completed)

/-- `commonParams`, as they are printed into the header; a `nil` is not stored. -/
def commonParams (F : Foundation Data Obj URL) : List (String × String) :=
  [("os", some "1"), ("bundleid", F.bundleIdentifier), ("version", F.bundleVersion), ("idfa", some F.idfa),
    ("apiversion", some "v1"), ("st", some F.timeIntervalSince1970), ("userid", some ""),
    ("channelid", some ""), ("imei", some ""), ("mac", some ""), ("net", some ""), ("token", some ""),
    ("model", F.iphoneType)].filterMap fun param => param.2.map fun value => (param.1, value)

/-- The length of an `NSString`, in UTF-16 units. -/
def length (s : String) : Nat := (s.toList.map fun c => if c.toNat < 0x10000 then 1 else 2).sum

/-- `_buildGetRequestUrlString:`. What `substringToIndex:` returns is dropped;
its argument is an `NSUInteger`, and one beyond the end raises. -/
def buildGetRequestUrlString (F : Foundation Data Obj URL) (params : Option Obj) :
    Except NSException String :=
  let pairs := match params with
    | none => []
    | some params => F.enumerateKeysAndObjects params
  let tempString := pairs.foldl (fun tempString pair =>
    tempString ++ F.description pair.1 ++ "=" ++ F.description pair.2 ++ "&") "?"
  if (length tempString + 2 ^ 64 - 2) % 2 ^ 64 > length tempString then .error .range
  else .ok tempString

/-- The first half of `jsonRequestConfig`: the query of a GET goes behind the
URL, the body of any other into the `urlRequest` there is. -/
def addParameters (F : Foundation Data Obj URL) (self : NetworkRequest Data Obj URL)
    (requestUrl : Option String) : Except NSException (NetworkRequest Data Obj URL × Option String) :=
  if self.httpMethod = some "GET" then do
    let requestParams ← buildGetRequestUrlString F self.parameters
    let (self, urlString) := self.getUrlString F
    pure (self, urlString.map fun url => F.stringByAppendingPathComponent url requestParams)
  else match self.parameters with
    | none => pure (self, requestUrl)
    | some parameters => do
      let serialized ← F.dataWithJSONObject parameters
      match serialized with
      | .ok data =>
        let urlRequest := self.urlRequest.map fun r => { r with HTTPBody := some data }
        pure ({ self with urlRequest }, requestUrl)
      | .error _ => pure (self, requestUrl)

/-- The second half: a new `urlRequest` takes the place of the old one. -/
def replaceUrlRequest (F : Foundation Data Obj URL) (self : NetworkRequest Data Obj URL) :
    Option String → Except NSException (NetworkRequest Data Obj URL)
  | none => .error .invalidArgument
  | some requestUrl =>
    let urlRequest : NSMutableURLRequest Data URL :=
      { url := F.URLWithString requestUrl, HTTPMethod := self.httpMethod, HTTPShouldUsePipelining := true }
    pure { self with urlRequest := some ((commonParams F).foldl NSMutableURLRequest.setValue urlRequest) }

/-- `jsonRequestConfig`. -/
def jsonRequestConfig (F : Foundation Data Obj URL) (self : NetworkRequest Data Obj URL) :
    Except NSException (NetworkRequest Data Obj URL) := do
  let (self, requestUrl) ← addParameters F (self.getUrlString F).1 (self.getUrlString F).2
  replaceUrlRequest F self requestUrl

/-- `_configBeforeRequest`; the two other configurations are empty. -/
def configBeforeRequest (F : Foundation Data Obj URL) (self : NetworkRequest Data Obj URL) :
    Except NSException (NetworkRequest Data Obj URL) :=
  match self.requestType with
  | .JSON => jsonRequestConfig F self
  | .upload | .download => pure self

/-! ## Completion -/

/-- What the data task ends with. -/
structure Outcome (Data Resp : Type) where
  data : Option Data
  response : Option Resp
  error : Option NSError

/-- The block dispatched to the main queue, with what it captured. -/
structure Callback (Obj : Type) where
  error : Option NSError
  responseObj : Option Obj
  deriving DecidableEq, Repr

variable {Resp : Type}

/-- The data task's completion handler in `_requestWithComletionHandler:`, and
what it calls `completionHandler` with. -/
def taskCompletion (F : Foundation Data Obj URL) (outcome : Outcome Data Resp) :
    Option Obj × Option Resp × Option NSError :=
  match outcome.error with
  | some error => (none, outcome.response, some error)
  | none =>
    match outcome.data with
    | none => (none, outcome.response, some { domain := "no data", code := -10001, userInfo := [] })
    | some data =>
      match F.JSONObjectWithData data with
      | .error JSONSerializationError => (none, outcome.response, some JSONSerializationError)
      | .ok JSON => (some JSON, outcome.response, none)

/-- `_callbackReponseBlockInMainThread:error:`: the block it dispatches, if any. -/
def callbackReponseBlockInMainThread (self : NetworkRequest Data Obj URL) (responseObj : Option Obj)
    (error : Option NSError) : Option (Callback Obj) :=
  if self.responseBlock then some { error, responseObj } else none

/-- `error && error.code == NSURLErrorCancelled`. -/
def isCancelled (error : Option NSError) : Bool := error.any fun e => e.code == NSURLErrorCancelled

/-- `_handleAfterRequestCompletion:response:error:`. The error is not passed on. -/
def handleAfterRequestCompletion (self : NetworkRequest Data Obj URL) (responseObject : Option Obj)
    (_response : Option Resp) (error : Option NSError) : Option (Callback Obj) :=
  if isCancelled error && !self.callbackWhenCancelled then none
  else self.callbackReponseBlockInMainThread responseObject none

end NetworkRequest

end LearningDemo
