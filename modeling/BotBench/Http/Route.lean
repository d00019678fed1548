import BotBench.Bench.Loop
import BotBench.Bot.Template
import BotBench.Http.Parameter

/-! # Requests

A request names a resource by a path and what to do with it by a method. It is either answered by
the routing alone or becomes a call to the bench. -/

namespace BotBench.Http

/-- A request. -/
structure Request where
  method : String
  path : String
  query : List (String × String) := []
  body : Option Json := none

/-- The resources of the bench. -/
inductive Resource
  | health
  | template (language : String)
  | bots
  | bot (id : String)
  | stop (id : String)
  | restart (id : String)
  | messages (id : String)
  deriving DecidableEq, Repr

/-- The parts of a path between its slashes. -/
def splitPath (path : List Char) : List String :=
  (path.foldr (fun c parts =>
    match parts with
    | part :: rest => if c == '/' then [] :: part :: rest else (c :: part) :: rest
    | [] => [[c]]) [[]]).map String.ofList

/-- The resource at a path. A part that stands for a parameter is not empty. -/
def Resource.ofPath? (path : String) : Option Resource :=
  match splitPath path.toList with
  | ["", "health"] => some .health
  | ["", "templates", language] => if language.isEmpty then none else some (.template language)
  | ["", "bots"] => some .bots
  | ["", "bots", id] => if id.isEmpty then none else some (.bot id)
  | ["", "bots", id, "stop"] => if id.isEmpty then none else some (.stop id)
  | ["", "bots", id, "restart"] => if id.isEmpty then none else some (.restart id)
  | ["", "bots", id, "messages"] => if id.isEmpty then none else some (.messages id)
  | _ => none

/-- The path with a slash at its end removed, or added where there is none. -/
def otherSlash (path : String) : String :=
  let cs := path.toList
  if cs.getLast? == some '/' then
    String.ofList (cs.reverse.dropWhile (· == '/')).reverse
  else path ++ "/"

/-- What becomes of a request: an answer at once, or a call to the bench. -/
inductive Routed
  | answer (answer : Answer)
  | call (call : Call)

/-- An answer that is a problem with a text. -/
def refuse (status : Nat) (text : String) : Routed := .answer (.problem status (.str text))

/-- What becomes of a request whose parameters have been read. -/
def withRead {α : Type} (read : Read α) (use : α → Routed) : Routed :=
  match read with
  | .ok value => use value
  | .error flaws => .answer (.problem 422 (.arr (flaws.map Flaw.toJson)))

/-- A template with the file name under which it is offered. -/
def templateAnswer (name : Option String) (language : Language) : Answer :=
  .success 200 (.obj [("language", .str language.name), ("code", .str (templateFor language)),
    ("filename", .str (downloadFilename name language))])

/-- Route a request to a resource; the methods that a resource does not have are not allowed. -/
def routeResource (request : Request) : Resource → Routed
  | .health =>
      if request.method == "GET" then .answer (.success 200 (.obj [("status", .str "ok")]))
      else refuse 405 "Method Not Allowed"
  | .template language =>
      if request.method == "GET" then
        let name := (request.query.find? fun entry => entry.1 == "name").map (·.2)
        withRead (readTemplateLanguage language) fun language =>
          .answer (templateAnswer name language)
      else refuse 405 "Method Not Allowed"
  | .bots =>
      if request.method == "GET" then .call .list
      else if request.method == "POST" then
        withRead (both (readWait request.query) (readDeployment request.body))
          fun (wait, (code, token), language) => .call (.launch code token language wait)
      else refuse 405 "Method Not Allowed"
  | .bot id =>
      if request.method == "GET" then withRead (readBot id) fun id => .call (.show id)
      else if request.method == "PUT" then
        withRead (both (both (readBot id) (readWait request.query)) (readDeployment request.body))
          fun ((id, wait), (code, token), language) => .call (.update id code token language wait)
      else if request.method == "DELETE" then withRead (readBot id) fun id => .call (.delete id)
      else refuse 405 "Method Not Allowed"
  | .stop id =>
      if request.method == "POST" then withRead (readBot id) fun id => .call (.stop id)
      else refuse 405 "Method Not Allowed"
  | .restart id =>
      if request.method == "POST" then
        withRead (both (readBot id) (readWait request.query))
          fun (id, wait) => .call (.restart id wait)
      else refuse 405 "Method Not Allowed"
  | .messages id =>
      if request.method == "POST" then
        withRead (both (readBot id) (readMessage request.body)) fun (id, text) =>
          .call (.send id text)
      else refuse 405 "Method Not Allowed"

/-- Route a request. A path that leads to a resource but for a slash at its end is redirected. -/
def route (request : Request) : Routed :=
  match Resource.ofPath? request.path with
  | some resource => routeResource request resource
  | none =>
      if request.path != "/" && (Resource.ofPath? (otherSlash request.path)).isSome then
        .answer (.success 307 .null)
      else refuse 404 "Not Found"

/-- The status and the body of an answer. A problem is an object with its detail. -/
def statusAndBody : Answer → Nat × Json
  | .success status body => (status, body)
  | .problem status detail => (status, .obj [("detail", detail)])
  | .crash _ | .fault _ => (500, .str "Internal Server Error")

/-- Answer a request: the call is run to its end, and then the bench settles. -/
def respond (config : Config) (fuel : Nat) (b : Bench) (request : Request) : Answer × Bench :=
  match route request with
  | .answer answer => (answer, b.settle config fuel)
  | .call call =>
      let (task, b) := b.drive config fuel (.serve call)
      let b := b.settle config fuel
      ((b.answer? task).getD (.problem 500 .null), b)

end BotBench.Http
