import AlertBridge.Endpoint.Basic
import AlertBridge.Proofs.Config.Entries
import AlertBridge.Proofs.Delivery.Requests

/-!
# Where a request for a hook leads

A request for a hook is refused if its body is no document, it finds nothing if there is no route
under its slug, and else the handler of the route delivers it. The type of a route in a
configuration is one of the two for which there are handlers, so a handler is always found. All
requests that come of it go to the webhook of the route, and only Discord gets the parameters.

Nothing has to be assumed of the body, the query, the limits or what comes of the requests.

## Main definitions

* `IsDocument`: the document in a body
* `Handler.IsFor`: the handler that a route should have
* `Routed`: what becomes of a request for a hook

## Main results

* `routed_receive`: the reaction to any body for any slug
* `exists_route_of_mem_posts_reactions`: where the requests of a whole run go
-/

namespace AlertBridge

/-- The handler is the one for the type of a route and the mode of the program. -/
structure Handler.IsFor (handler : Handler) (route : Route) (mode : String) : Prop where
  discord_iff : handler.platform = .discord ↔ route.type = "discord"
  slack_iff : handler.platform = .slack ↔ route.type = "slack"
  packed_iff : handler.packed ↔ mode = "alternative"

theorem Handler.exists_isFor {route : Route} (h : route.type ∈ Config.routeTypes)
    (mode : String) : ∃ handler, of? route mode = some handler ∧ handler.IsFor route mode := by
  have hpacked : isPacking mode ↔ mode = "alternative" := by simp [isPacking]
  have htype : route.type = "discord" ∨ route.type = "slack" := by
    simpa [Config.routeTypes] using h
  rw [of?]
  rcases htype with htype | htype
  · rw [htype]
    exact ⟨⟨.discord, isPacking mode⟩, rfl, by simp [htype], by simp [htype], hpacked⟩
  · rw [htype]
    exact ⟨⟨.slack, isPacking mode⟩, rfl, by simp [htype], by simp [htype], hpacked⟩

namespace Endpoint

open Webhook (Outcome target?)

/-- The document in a body, which is not null. -/
def IsDocument (body : List UInt8) (data : Json) : Prop :=
  (decodeDocument? body).bind Json.read? = some data ∧ data ≠ .null

/-- A request to an address goes to the webhook of a route, with the query for Discord and without
it for Slack. -/
def GoesTo (route : Route) (query : List (String × String)) (url : String) : Prop :=
  route.type = "discord" ∧ target? route.hook query = some url ∨
    route.type = "slack" ∧ target? route.hook [] = some url

/-- What becomes of a body for a slug. -/
structure Routed (server : Server) (slug : String) (query : List (String × String))
    (body : List UInt8) (script : List Outcome) : Prop where
  status_mem : (server.receive slug query body script).status ∈ [200, 400, 404, 500]
  /-- All requests go to the webhook of the slug's route. -/
  posts_target : ∀ post ∈ (server.receive slug query body script).posts,
    ∃ route, server.config.route? slug = some route ∧ route.slug = slug ∧
      GoesTo route query post.url
  posts_of_refused : (server.receive slug query body script).status ∈ [400, 404] →
    (server.receive slug query body script).posts = []
  notFound_iff : (server.receive slug query body script).status = 404 ↔
    (∃ data, IsDocument body data) ∧ server.config.route? slug = none
  /-- A document for a slug with a route is delivered by the handler for the route. -/
  handled : ∀ data route, IsDocument body data → server.config.route? slug = some route →
    ∃ handler received, Handler.of? route server.mode = some handler ∧
      handler.IsFor route server.mode ∧
      server.receive slug query body script = .ofDelivery slug received
        (handler.deliver ⟨route.hook, data, query, server.limits, server.lexer, server.ceiling⟩
          script)

variable {server : Server} {slug : String} {query : List (String × String)}
  {body : List UInt8} {data : Json} {script : List Outcome}

/-! ## Documents -/

theorem document?_eq_some_iff : document? body = some data ↔ IsDocument body data := by
  rw [document?, Option.filter_eq_some_iff, IsDocument]
  refine and_congr_right' ?_
  cases data <;> simp

theorem document?_eq_none_iff : document? body = none ↔ ¬ ∃ data, IsDocument body data := by
  simp only [← document?_eq_some_iff, ← Option.isSome_iff_exists]
  simp

/-! ## Deliveries -/

section

variable {received : LogRecord} {hook : String} {parameters : List (String × String)}
  {d : Delivery}

theorem posts_ofDelivery : (Reaction.ofDelivery slug received d).posts = d.posts := by
  unfold Reaction.ofDelivery
  split <;> rfl

/-- A fault that ends a delivery is an error of the server. -/
theorem status_ofDelivery_mem (hd : d.IsDirected hook parameters) :
    (Reaction.ofDelivery slug received d).status ∈ [200, 400, 500] := by
  unfold Reaction.ofDelivery
  split
  · next status hstatus => exact hd.status_mem status hstatus
  · simp

theorem posts_ofDelivery_of_refused (hd : d.IsDirected hook parameters)
    (h : (Reaction.ofDelivery slug received d).status = 400) :
    (Reaction.ofDelivery slug received d).posts = [] := by
  rw [posts_ofDelivery]
  unfold Reaction.ofDelivery at h
  split at h
  · next status hstatus =>
    obtain rfl : status = 400 := h
    exact hd.posts_of_refused hstatus
  · cases h

end

/-! ## Requests for hooks -/

/-- A body that is no document is refused. -/
theorem routed_of_invalid (h : document? body = none) : Routed server slug query body script := by
  have hreceive : server.receive slug query body script =
      .plain 400 .empty [invalidRecord body] script := by
    rw [Server.receive, h]
  have hnone := document?_eq_none_iff.1 h
  constructor
  · simp [hreceive, Reaction.plain]
  · simp [hreceive, Reaction.plain]
  · simp [hreceive, Reaction.plain]
  · simp [hreceive, Reaction.plain, hnone]
  · intro data route hdata
    exact absurd ⟨data, hdata⟩ hnone

/-- Nothing is found under a slug without a route. -/
theorem routed_of_noRoute (hdata : document? body = some data)
    (hroute : server.config.route? slug = none) : Routed server slug query body script := by
  have hreceive : ∃ record,
      server.receive slug query body script = .plain 404 .empty [record] script := by
    rw [Server.receive, hdata]
    dsimp only
    rw [Server.deliver, hroute]
    exact ⟨_, rfl⟩
  obtain ⟨record, hreceive⟩ := hreceive
  have hdocument : ∃ data, IsDocument body data := ⟨data, document?_eq_some_iff.1 hdata⟩
  constructor
  · simp [hreceive, Reaction.plain]
  · simp [hreceive, Reaction.plain]
  · simp [hreceive, Reaction.plain]
  · simp [hreceive, Reaction.plain, hdocument, hroute]
  · simp [hroute]

/-- A document for a slug with a route is delivered. -/
theorem routed_of_route {route : Route} (hdata : document? body = some data)
    (hroute : server.config.route? slug = some route) (hslug : route.slug = slug)
    (htype : route.type ∈ Config.routeTypes) : Routed server slug query body script := by
  obtain ⟨handler, hhandler, hfor⟩ := Handler.exists_isFor htype server.mode
  let n : Notification :=
    ⟨route.hook, data, query, server.limits, server.lexer, server.ceiling⟩
  have hreceive : ∃ received, server.receive slug query body script =
      .ofDelivery slug received (handler.deliver n script) := by
    rw [Server.receive, hdata]
    dsimp only
    rw [Server.deliver, hroute]
    dsimp only
    rw [hhandler]
    exact ⟨_, rfl⟩
  obtain ⟨received, hreceive⟩ := hreceive
  have hdirected := handler.isDirected_deliver n script
  have hstatus : (Reaction.ofDelivery slug received (handler.deliver n script)).status ∈
      [200, 400, 500] := status_ofDelivery_mem hdirected
  constructor
  · rw [hreceive]
    simp only [List.mem_cons, List.not_mem_nil, or_false] at hstatus ⊢
    omega
  · intro post hpost
    rw [hreceive, posts_ofDelivery] at hpost
    have htarget := hdirected.target_eq post hpost
    refine ⟨route, hroute, hslug, ?_⟩
    rw [Handler.parameters] at htarget
    cases hplatform : handler.platform with
    | discord =>
      rw [hplatform] at htarget
      exact .inl ⟨hfor.discord_iff.1 hplatform, htarget⟩
    | slack =>
      rw [hplatform] at htarget
      exact .inr ⟨hfor.slack_iff.1 hplatform, htarget⟩
  · rw [hreceive]
    simp only [List.mem_cons, List.not_mem_nil, or_false] at hstatus ⊢
    intro hrefused
    exact posts_ofDelivery_of_refused hdirected (by omega)
  · rw [hreceive, hroute]
    simp only [List.mem_cons, List.not_mem_nil, or_false] at hstatus
    exact iff_of_false (by omega) (by simp)
  · intro data' route' hdata' hroute'
    obtain rfl := Option.some.inj (hdata.symm.trans (document?_eq_some_iff.2 hdata'))
    obtain rfl := Option.some.inj (hroute.symm.trans hroute')
    exact ⟨handler, received, hhandler, hfor, hreceive⟩

/-- A configuration that was read has a handler for each of its routes. -/
theorem routed_of_config {settings : Json} (hconfig : server.config = (Config.ofData settings).value)
    (slug : String) (query : List (String × String)) (body : List UInt8)
    (script : List Outcome) : Routed server slug query body script := by
  cases hdata : document? body with
  | none => exact routed_of_invalid hdata
  | some data =>
    cases hroute : server.config.route? slug with
    | none => exact routed_of_noRoute hdata hroute
    | some route =>
      obtain ⟨hslug, entry, token, haccepts⟩ := Config.route?_ofData (hconfig ▸ hroute)
      exact routed_of_route hdata hroute hslug haccepts.type_mem

theorem ofPath?_of_routing {method : String} {path : List Char} {resource : Resource}
    (h : Routing.of method path = .resource resource) :
    Resource.ofPath? path = some resource := by
  unfold Routing.of at h
  dsimp only at h
  split at h
  · next found hfound =>
    split at h
    · obtain rfl := Routing.resource.inj h
      exact hfound
    · cases h
  · split at h <;> cases h
  · cases h

/-- A request leads to requests only if it names the slug of a route, and they go to its webhook. -/
theorem exists_route_of_mem_posts_react {settings : Json}
    (hconfig : server.config = (Config.ofData settings).value) {request : Request}
    {post : Webhook.Post} (h : post ∈ (server.react request script).posts) :
    ∃ slug route, Resource.ofPath? (Target.ofText request.target).path = some (.hook slug) ∧
      server.config.route? slug = some route ∧
      GoesTo route (Target.ofText request.target).query post.url := by
  unfold Server.react at h
  dsimp only at h
  split at h
  · cases h
  · cases h
  · cases h
  · next resource hrouting =>
    split at h
    · cases h
    · split at h
      · cases h
      · next slug =>
        have hrouted := routed_of_config hconfig slug (Target.ofText request.target).query
          request.body script
        obtain ⟨route, hroute, -, hgoes⟩ := hrouted.posts_target post h
        exact ⟨slug, route, ofPath?_of_routing hrouting, hroute, hgoes⟩

/-- All requests of a run go to webhooks of the configuration, each to the one that was named. -/
theorem exists_route_of_mem_posts_reactions {settings : Json}
    (hconfig : server.config = (Config.ofData settings).value) (requests : List Request)
    {reaction : Reaction} (hreaction : reaction ∈ server.reactions requests script)
    {post : Webhook.Post} (h : post ∈ reaction.posts) :
    ∃ request ∈ requests, ∃ slug route,
      Resource.ofPath? (Target.ofText request.target).path = some (.hook slug) ∧
        server.config.route? slug = some route ∧
        GoesTo route (Target.ofText request.target).query post.url := by
  induction requests generalizing script with
  | nil => cases hreaction
  | cons request rest ih =>
    rcases List.mem_cons.1 hreaction with rfl | hreaction
    · exact ⟨request, List.mem_cons_self, exists_route_of_mem_posts_react hconfig h⟩
    · obtain ⟨later, hlater, hgoes⟩ := ih hreaction
      exact ⟨later, List.mem_cons_of_mem _ hlater, hgoes⟩

end Endpoint

end AlertBridge
