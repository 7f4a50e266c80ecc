import BuildGraph.Model.Step
import BuildGraph.Number.Integer
import BuildGraph.Text.LowerCase

/-!
# HTTP requests as curl commands

A script makes an HTTP request by running `curl`. `HttpConfig.curlArguments` writes the arguments of
a request, and `HttpConfig.ofCurl?` reads them back. A last header that names the content type is
read as the content type of the request.
-/

namespace BuildGraph

open BuildGraph.Text BuildGraph.Number

namespace HttpConfig

/-- A flag before a text that is there and not empty. -/
def flagged (flag : String) (value : Option String) : List String :=
  match value with
  | some s => if s = "" then [] else [flag, s]
  | none => []

/-- The arguments of the command: method, headers, body, content type, time limit, redirects,
output file and address. -/
def curlArguments (c : HttpConfig) : List String :=
  ["-X", if c.method = "" then "GET" else c.method] ++
  c.headers.entries.flatMap (fun h => ["-H", h.1 ++ ": " ++ h.2]) ++
  flagged "-d" c.body ++
  (match c.contentType with
    | some s => if s = "" then [] else ["-H", "Content-Type: " ++ s]
    | none => []) ++
  (match c.timeoutSeconds with
    | some n => if n = 0 then [] else ["--max-time", toString n]
    | none => []) ++
  (if c.followRedirects then ["-L"] else []) ++
  flagged "-o" c.outputFile ++
  (if c.url = "" then [] else [c.url])

/-- What is known of a request while its arguments are read. -/
structure CurlReading where
  method : String := "GET"
  headers : List String := []
  body : Option String := none
  timeout : Option Int := none
  follow : Bool := false
  output : Option String := none
  url : Option String := none
  deriving DecidableEq, Repr

/-- What a flag with a value says. -/
inductive CurlFlag where
  | request | header | data | maxTime | output
  deriving DecidableEq, Repr

/-- The flag that an argument is, if it is one that takes a value. -/
def curlFlag? (arg : String) : Option CurlFlag :=
  if arg = "-X" || arg = "--request" then some .request
  else if arg = "-H" || arg = "--header" then some .header
  else if arg = "-d" || arg = "--data" then some .data
  else if arg = "--max-time" then some .maxTime
  else if arg = "-o" || arg = "--output" then some .output
  else none

/-- Reads arguments. Nothing is found when one of them is not understood; a time limit may fail to
be an integer although it looks like one. -/
def readCurl : CurlReading → List String → Except IntegerStop (Option CurlReading)
  | r, [] => .ok (some r)
  | r, [arg] =>
    match curlFlag? arg with
    | some _ => .ok none
    | none =>
      if arg = "-L" || arg = "--location" then .ok (some { r with follow := true })
      else if !startsWith arg "-" && r.url.isNone then .ok (some { r with url := some arg })
      else .ok none
  | r, arg :: value :: rest =>
    match curlFlag? arg with
    | some .request => readCurl { r with method := value } rest
    | some .header => readCurl { r with headers := r.headers ++ [value] } rest
    | some .data => readCurl { r with body := some value } rest
    | some .output => readCurl { r with output := some value } rest
    | some .maxTime =>
      if isDigitText value then
        match requireInteger value with
        | .ok n => readCurl { r with timeout := some n } rest
        | .error cause => .error cause
      else .ok none
    | none =>
      if arg = "-L" || arg = "--location" then readCurl { r with follow := true } (value :: rest)
      else if !startsWith arg "-" && r.url.isNone then
        readCurl { r with url := some arg } (value :: rest)
      else .ok none

/-- The name and the value of a header, before and after the first colon and space. -/
def splitHeader : List Char → Option (List Char × List Char)
  | [] => none
  | ':' :: ' ' :: rest => some ([], rest)
  | c :: rest => (splitHeader rest).map fun h => (c :: h.1, h.2)

/-- The name and the value of a header. -/
def readHeader? (header : String) : Option (String × String) :=
  (splitHeader header.toList).map fun h => (String.ofList h.1, String.ofList h.2)

/-- How a header begins that names the content type. -/
def contentTypeStart : String := "content-type: "

/-- The headers and the content type that a last header may name. -/
def splitContentType (headers : List String) : List String × Option String :=
  match headers.getLast? with
  | some last =>
    if startsWith (lower last) contentTypeStart then
      (headers.dropLast, some (drop contentTypeStart.length last))
    else (headers, none)
  | none => (headers, none)

/-- The request that arguments make, the word `curl` left out. -/
def ofCurl? (args : List String) : Except IntegerStop (Option HttpConfig) := do
  match ← readCurl {} args with
  | none => return none
  | some r =>
    let (headers, contentType) := splitContentType r.headers
    return (headers.mapM readHeader?).map fun pairs => {
      url := r.url.getD ""
      method := r.method
      headers := Table.ofList pairs
      body := r.body
      contentType
      timeoutSeconds := r.timeout
      followRedirects := r.follow
      outputFile := r.output }

end HttpConfig

end BuildGraph
