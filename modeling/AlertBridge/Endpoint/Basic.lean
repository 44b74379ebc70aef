import AlertBridge.Endpoint.Handler
import AlertBridge.Endpoint.Target
import AlertBridge.Json.Reader

/-!
# The endpoint

Requests come in for the state of the program and for hooks. A request for a hook has a JSON
document as its body; its notification is delivered by the handler of the slug's route. A body
that is no document is refused first, then a slug without a route; a fault that ends the delivery
is an error of the server.
-/

namespace AlertBridge.Endpoint

/-- What the endpoint depends on. -/
structure Server where
  config : Config
  mode : String
  limits : Limits
  lexer : Lexer
  ceiling : Int

/-- A request. -/
structure Request where
  method : String
  target : String
  body : List UInt8

/-- The body of a response. -/
inductive Content where
  | empty
  /-- A page that explains an error or a redirection. -/
  | page
  /-- The state of the program: it runs, for some time. -/
  | health
  deriving DecidableEq

/-- What a request leads to: the response, the requests sent, the records written, and what is
left of the script of outcomes. -/
structure Reaction where
  status : Int
  content : Content
  posts : List Webhook.Post
  log : List LogRecord
  script : List Webhook.Outcome

/-- A record of the endpoint. -/
def serverRecord (level : Level) (event : String) : LogRecord :=
  ⟨level, "relay.controller", event, none⟩

/-- The record about the start of the endpoint. -/
def Server.startRecord (server : Server) : LogRecord :=
  serverRecord .info ("Loaded " ++ toString server.config.routes.length
    ++ " route(s), working mode: " ++ server.mode)

namespace Reaction

/-- A response without requests to webhooks. -/
def plain (status : Int) (content : Content) (log : List LogRecord)
    (script : List Webhook.Outcome) : Reaction := ⟨status, content, [], log, script⟩

/-- The reaction to a request for a hook that ends in a delivery. -/
def ofDelivery (slug : String) (received : LogRecord) (delivery : Delivery) : Reaction :=
  match delivery.status with
  | .ok status =>
    ⟨status, .empty, delivery.posts, received :: delivery.log, delivery.script⟩
  | .error fault =>
    ⟨500, .empty, delivery.posts, received :: delivery.log ++
      [⟨.error, "relay.controller", "Unhandled error for slug \"" ++ slug ++ "\"",
        some fault.inRecord⟩], delivery.script⟩

end Reaction

/-- The document in a body; null is none. -/
def document? (body : List UInt8) : Option Json :=
  ((decodeDocument? body).bind Json.read?).filter fun v => match v with
    | .null => false
    | _ => true

/-- The record about a body that holds no document. -/
def invalidRecord (body : List UInt8) : LogRecord :=
  let text := String.ofList (decodeUtf8Lossy body)
  serverRecord .warning ("Invalid JSON body; Body length: " ++ toString text.length ++ "; Body: "
    ++ Json.quotedText (takeText 1000 text))

/-- The reaction to a document for a slug. -/
def Server.deliver (server : Server) (slug : String) (query : List (String × String))
    (data : Json) (script : List Webhook.Outcome) : Reaction :=
  match server.config.route? slug with
  | none =>
    .plain 404 .empty [serverRecord .warning ("Slug \"" ++ slug ++ "\" was not found in routes")]
      script
  | some route =>
    match Handler.of? route server.mode with
    | none =>
      .plain 500 .empty [serverRecord .error ("No handler found for slug \"" ++ slug ++ "\"")]
        script
    | some handler =>
      .ofDelivery slug
        (serverRecord .debug ("Received data for slug " ++ slug ++ ": " ++ data.shown))
        (handler.deliver
          ⟨route.hook, data, query, server.limits, server.lexer, server.ceiling⟩ script)

/-- The reaction to a body for a slug. -/
def Server.receive (server : Server) (slug : String) (query : List (String × String))
    (body : List UInt8) (script : List Webhook.Outcome) : Reaction :=
  match document? body with
  | none => .plain 400 .empty [invalidRecord body] script
  | some data => server.deliver slug query data script

/-- The response to a request for its head has no content. -/
def contentFor (method : String) (content : Content) : Content :=
  if method = "HEAD" then .empty else content

/-- The reaction to a request. -/
def Server.react (server : Server) (request : Request) (script : List Webhook.Outcome) :
    Reaction :=
  let method := request.method.map Char.toUpper
  let target := Target.ofText request.target
  match Routing.of method target.path with
  | .unknown => .plain 404 (contentFor method .page) [] script
  | .wrongMethod => .plain 405 (contentFor method .page) [] script
  | .redirect => .plain 308 (contentFor method .page) [] script
  | .resource resource =>
    if method = "OPTIONS" then .plain 200 .empty [] script
    else match resource with
      | .health => .plain 200 (contentFor method .health) [] script
      | .hook slug => server.receive slug target.query request.body script

/-- The reactions to requests, one after the other. -/
def Server.reactions (server : Server) : List Request → List Webhook.Outcome → List Reaction
  | [], _ => []
  | request :: rest, script =>
    let reaction := server.react request script
    reaction :: server.reactions rest reaction.script

end AlertBridge.Endpoint
