import NodeGateway.Proofs.Beacon.Response
import NodeGateway.Proofs.Settings.Load
import NodeGateway.Proofs.Url.Extension

/-!
# When a Fallback Is Its Primary

Settings are refused if the fallback of a layer is the URL of its primary. Requests to a beacon node
are not made of that URL, though, but of its written form without the slashes at its end. So two
URLs that only differ in these slashes pass the check and are one node to all requests
(`Beacon.same_node_behind_slash`).

That is the only way for a fallback to be its primary: the URLs of a request to the one and to the
other are the same exactly if the two written forms are the same without the slashes at their ends
(`Beacon.fallback_of_load`). It holds of requests whose path leads to no directory above, which an
argument with dots in it may do, and of endpoints that requests can be sent to at all
(`Url.IsEndpoint`).
-/

namespace NodeGateway.Beacon

/-- Whether the path of a route leads to no directory above. -/
def Route.stays (route : Route) : Bool := Url.stays (Url.pieces (Url.cleaned route.path))

namespace Route

variable {route : Route} {behind : List Char}

/-- A path that leads to no directory above does not do so behind its first slash. -/
theorem stays_behind (hpath : route.path.toList = '/' :: behind) (h : route.stays = true) :
    Url.stays (Url.pieces (Url.cleanedBehind behind)) = true := by
  have hnoBlank : ∀ c ∈ ([] : List Char), 0x20 < c.toNat := by simp
  have hcleaned : Url.cleaned route.path = '/' :: Url.cleanedBehind behind :=
    Url.cleaned_append hnoBlank hpath
  have hnoMark : ∀ c ∈ ([] : List Char), Url.isInSegment c = true := by simp
  have hpieces : Url.pieces ('/' :: Url.cleanedBehind behind) =
      [] :: Url.pieces (Url.cleanedBehind behind) :=
    Url.pieces_append hnoMark _
  rw [stays, hcleaned, hpieces] at h
  exact h

/-- **The URL of a route behind a base** is the base extended by the path, with the pairs of the
route added. -/
theorem url_eq (base : Url.Base) (hpath : route.path.toList = '/' :: behind)
    (h : route.stays = true) :
    route.url base.url =
      .ok (if route.query.isEmpty then base.extended (Url.cleanedBehind behind)
        else (base.extended (Url.cleanedBehind behind)).appendQuery route.query) := by
  rw [url, base.parse_trimmed hpath (stays_behind hpath h)]
  rfl

/-- Bases with the same written form, up to slashes at the end, give one URL. -/
theorem url_congr (route : Route) {first second : Url}
    (h : Url.trimSlashes first.text = Url.trimSlashes second.text) :
    route.url first = route.url second := by
  rw [url, url, h]

/-- **Two bases are one to a request** exactly if their written forms are the same up to slashes at
the end. -/
theorem sent_eq_iff (first second : Url.Base) (hpath : route.path.toList = '/' :: behind)
    (h : route.stays = true) :
    ∃ url other, route.url first.url = .ok url ∧ route.url second.url = .ok other ∧
      (other.sent = url.sent ↔
        Url.trimSlashes second.url.text = Url.trimSlashes first.url.text) := by
  refine ⟨_, _, url_eq first hpath h, url_eq second hpath h, ?_, ?_⟩
  · intro hsent
    have htarget : (second.extended (Url.cleanedBehind behind)).target =
        (first.extended (Url.cleanedBehind behind)).target := by
      split at hsent
      · exact Url.target_eq_of_sent hsent
      · exact Url.target_eq_of_appendQuery hsent
    rw [← String.toList_inj, second.toList_trimSlashes, first.toList_trimSlashes]
    exact Url.Base.trimmed_eq_of_target htarget
  · intro htrimmed
    have hurl := url_congr route htrimmed
    rw [url_eq first hpath h, url_eq second hpath h] at hurl
    rw [Except.ok.inj hurl]

end Route

/-- **When a fallback is its primary.** In settings that were loaded the two are different URLs. If
their written forms are the same without the slashes at their ends, they are one node all the same:
every request is made of the same URL. Otherwise no request that stays behind its base is. -/
theorem fallback_of_load {file : SettingTree} {environment : List (String × String)}
    {settings : Settings} {fallback : Url}
    (hload : Settings.load file environment = .ok settings)
    (hfallback : settings.beacon.fallback = some fallback) :
    fallback ≠ settings.beacon.primary ∧
      (Url.trimSlashes fallback.text = Url.trimSlashes settings.beacon.primary.text →
        ∀ request : Request,
          request.route.url fallback = request.route.url settings.beacon.primary) ∧
      (settings.beacon.primary.IsEndpoint → fallback.IsEndpoint →
        ∀ request : Request, request.route.stays = true →
          ∃ url other, request.route.url settings.beacon.primary = .ok url ∧
            request.route.url fallback = .ok other ∧
            (other.sent = url.sent ↔
              Url.trimSlashes fallback.text = Url.trimSlashes settings.beacon.primary.text)) := by
  obtain ⟨⟨_, hprimaryRead⟩, hfallbackRead⟩ :=
    Settings.of_load hload settings.beacon (List.mem_cons_of_mem _ List.mem_cons_self)
  obtain ⟨⟨_, hfallbackRead⟩, hdistinct⟩ := hfallbackRead fallback hfallback
  refine ⟨hdistinct, fun htrimmed request => request.route.url_congr htrimmed, ?_⟩
  intro hprimary hendpoint request hstays
  obtain ⟨first, hfirst⟩ := Url.exists_base_of_parse hprimaryRead hprimary
  obtain ⟨second, hsecond⟩ := Url.exists_base_of_parse hfallbackRead hendpoint
  obtain ⟨behind, hpath⟩ : ∃ behind, request.route.path.toList = '/' :: behind :=
    ⟨_, List.eq_cons_of_mem_head? request.head?_path⟩
  rw [← hfirst, ← hsecond]
  exact Route.sent_eq_iff first second hpath hstays

/-- A file of settings that names two beacon nodes. -/
def fileWith (primary fallback : String) : SettingTree :=
  .table
    [("app", .table [("host", .text "127.0.0.1" false), ("port", .integer 8080)]),
      ("beacon", .table
        [("primary_url", .text primary false), ("fallback_url", .text fallback false)]),
      ("execution", .table [("primary_url", .text "http://localhost:8545" false)])]

/-- A node on the machine itself. -/
def localNode (port : Nat) (segments : List String) : Url :=
  ⟨"http", some ⟨"", .name "localhost", some port⟩, .segments segments, none, none⟩

/-- A node on the machine itself is an endpoint. -/
theorem isEndpoint_localNode (port : Nat) (segments : List String) :
    (localNode port segments).IsEndpoint where
  scheme := rfl
  fragment := rfl
  host := by
    rintro _ ⟨⟩
    change Host.ReadsBack (.name "localhost")
    decide +kernel

/-- Two nodes that differ in their ports are told apart by every request. -/
theorem other_node_behind_port :
    ∃ settings fallback,
      Settings.load (fileWith "http://localhost:5052" "http://localhost:5053/") [] = .ok settings ∧
        settings.beacon.fallback = some fallback ∧
        ∀ request : Request, request.route.stays = true →
          ∃ url other, request.route.url settings.beacon.primary = .ok url ∧
            request.route.url fallback = .ok other ∧ other.sent ≠ url.sent := by
  have hread : (Settings.load (fileWith "http://localhost:5052" "http://localhost:5053/") []).map
      (·.beacon) = .ok ⟨localNode 5052 [""], some (localNode 5053 [""]), .standard⟩ := by
    decide +kernel
  obtain ⟨settings, hload, hbeacon⟩ := Settings.exists_of_map_load hread
  have hfallback : settings.beacon.fallback = some (localNode 5053 [""]) := by rw [hbeacon]
  refine ⟨settings, _, hload, hfallback, fun request hstays => ?_⟩
  have htold := (fallback_of_load hload hfallback).2.2
  rw [hbeacon] at htold ⊢
  obtain ⟨url, other, hurl, hother, hiff⟩ := htold (isEndpoint_localNode 5052 [""])
    (isEndpoint_localNode 5053 [""]) request hstays
  have hdiffer : Url.trimSlashes (localNode 5053 [""]).text ≠
      Url.trimSlashes (localNode 5052 [""]).text := by decide +kernel
  exact ⟨url, other, hurl, hother, fun hsent => hdiffer (hiff.mp hsent)⟩

/-- **A fallback that is its primary.** Settings with a path and the same path with a slash behind
it are loaded, and every request to the fallback is made of the URL of the one to the primary. -/
theorem same_node_behind_slash :
    ∃ settings fallback,
      Settings.load (fileWith "http://localhost:5052/x" "http://localhost:5052/x/") [] =
          .ok settings ∧
        settings.beacon.fallback = some fallback ∧ fallback ≠ settings.beacon.primary ∧
        (∀ request : Request,
          request.route.url fallback = request.route.url settings.beacon.primary) ∧
        (Request.nodeSyncing.route.url settings.beacon.primary).map Url.text =
          .ok "http://localhost:5052/x/eth/v1/node/syncing" := by
  have hread : (Settings.load (fileWith "http://localhost:5052/x" "http://localhost:5052/x/")
      []).map (·.beacon) =
        .ok ⟨localNode 5052 ["x"], some (localNode 5052 ["x", ""]), .standard⟩ := by
    decide +kernel
  obtain ⟨settings, hload, hbeacon⟩ := Settings.exists_of_map_load hread
  refine ⟨settings, localNode 5052 ["x", ""], hload, by rw [hbeacon], ?_, ?_, ?_⟩
  · rw [hbeacon]
    decide
  · rw [hbeacon]
    have htrimmed : Url.trimSlashes (localNode 5052 ["x", ""]).text =
        Url.trimSlashes (localNode 5052 ["x"]).text := by decide +kernel
    exact fun request => request.route.url_congr htrimmed
  · rw [hbeacon]
    decide +kernel

end NodeGateway.Beacon
