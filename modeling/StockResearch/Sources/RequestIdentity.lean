import StockResearch.Sources.Transports

/-!
# What a transport request identifies

A transport compares the request it is called with to the one its own intent gives, and
the request keeps the origin, the operation and the resource key of an intent only. So a
request stands for one target exactly where these three decide the parameters that the
renderer reads.

- `RenderedSource`: the three sources with a renderer, and their transports.
- `RenderedSource.Identifies`: equal requests are sent to equal targets.
- `RenderedSource.SameSend`: what the renderer reads and the request does not keep.
- `request_identifies_iff`: the first of them is the second.
-/

namespace StockResearch.Sources

open Requests

/-! ## The law -/

/-- The sources that render the target of an intent. -/
inductive RenderedSource
  | edinet
  | boj
  | dukascopy
deriving DecidableEq

namespace RenderedSource

/-- The renderer of a source. -/
def render : RenderedSource → CredentialFreeSourceIntent → Except TransportError HttpTarget
  | edinet => renderEdinetHttpTarget
  | boj => renderBojHttpTarget
  | dukascopy => renderDukascopyHttpTarget

/-- A transport of the source that was built for an intent. -/
def BuiltFor (source : RenderedSource) (intent : CredentialFreeSourceIntent)
    (transport : SourceTransport) : Prop :=
  match source, transport with
  | edinet, .edinet transport => transport.intent = intent
  | boj, .boj transport => transport.intent = intent
  | dukascopy, .dukascopy transport => transport.intent = intent
  | _, _ => False

/-- The requests of two intents are equal for equal targets only, and a transport of the
second intent sends for a request of the first if their targets are equal only. -/
structure Identifies (source : RenderedSource) (i j : CredentialFreeSourceIntent)
    (t u : HttpTarget) : Prop where
  injective : ∀ l a, i.toTransportRequest l a = j.toTransportRequest l a → t = u
  guarded : ∀ transport, source.BuiltFor j transport → ∀ l a,
    transport.sends (i.toTransportRequest l a) = true → t = u

/-- The parameters that a renderer reads and no request keeps. -/
def SameSend (source : RenderedSource) (i j : CredentialFreeSourceIntent) : Prop :=
  match source with
  | edinet => i.operation.text = "document-list" → j.operation.text = "document-list" →
      i.value "date" = j.value "date"
  | boj => i.value "start_date" = j.value "start_date" ∧ i.value "end_date" = j.value "end_date"
  | dukascopy => i.resourceKey = j.resourceKey → i.value "url" = j.value "url"

end RenderedSource

/-! ## Requests -/

namespace CredentialFreeSourceIntent

theorem toTransportRequest_eq_iff {i j : CredentialFreeSourceIntent} {l a : Identifier} :
    i.toTransportRequest l a = j.toTransportRequest l a ↔
      i.origin = j.origin ∧ i.operation = j.operation ∧ i.resourceKey = j.resourceKey := by
  simp [toTransportRequest]

theorem isRequest_toTransportRequest {i j : CredentialFreeSourceIntent} {l a : Identifier} :
    j.isRequest (i.toTransportRequest l a) = true ↔
      i.toTransportRequest l a = j.toTransportRequest l a := by
  simp [isRequest, toTransportRequest]

/-- The names of an intent with a given list of names have a value each. -/
theorem value_of_mem_names {i : CredentialFreeSourceIntent} {name : String}
    (h : name ∈ i.names) : ∃ value, i.value name = some value := by
  obtain ⟨parameter, hmem, rfl⟩ := List.mem_map.mp h
  cases hfind : i.parameters.find? (fun p => p.name.text = parameter.name.text) with
  | none =>
    rw [List.find?_eq_none] at hfind
    simp only [decide_eq_true_eq] at hfind
    exact absurd rfl (hfind parameter hmem)
  | some found => exact ⟨found.value, by simp only [value, hfind, Option.map_some]⟩

/-- The names of an intent differ, so its entries are its names with their values. -/
theorem entries_eq_names (i : CredentialFreeSourceIntent) :
    i.parameters.map (fun p => (p.name.text, p.value)) =
      i.names.map fun name => (name, (i.value name).getD "") := by
  have hnodup : (i.parameters.map (·.name.text)).Nodup :=
    i.canonical.imp fun hlt heq => absurd hlt (by simp [heq])
  rw [names, List.map_map]
  refine List.map_congr_left fun parameter hmem => ?_
  have hfind : i.parameters.find? (fun p => p.name.text = parameter.name.text) =
      some parameter := by
    obtain ⟨found, hfound⟩ : ∃ found,
        i.parameters.find? (fun p => p.name.text = parameter.name.text) = some found :=
      Option.isSome_iff_exists.mp (List.find?_isSome.mpr ⟨parameter, hmem, by simp⟩)
    rw [hfound, List.inj_on_of_nodup_map hnodup (List.mem_of_find?_eq_some hfound) hmem
      (by simpa using List.find?_some hfound)]
  simp only [Function.comp_apply, value, hfind, Option.map_some, Option.getD_some]

end CredentialFreeSourceIntent

open CredentialFreeSourceIntent

/-- A transport sends for the requests of its own intent only. -/
theorem RenderedSource.BuiltFor.sends {source : RenderedSource} {j : CredentialFreeSourceIntent}
    {transport : SourceTransport} {request : PhysicalTransportRequest}
    (hbuilt : source.BuiltFor j transport) (hsends : transport.sends request = true) :
    j.isRequest request = true := by
  cases source <;> cases transport <;> simp only [BuiltFor] at hbuilt
  all_goals
    subst hbuilt
    by_contra hother
    simp_all [SourceTransport.sends, EdinetPhysicalTransport.prepare,
      BojPhysicalTransport.prepare, DukascopyPhysicalTransport.prepare, require, Except.isOk,
      Except.toBool, bind, Except.bind]

/-- What the transports check makes the second half of the law follow from the first. -/
theorem RenderedSource.identifies_iff {source : RenderedSource} {i j : CredentialFreeSourceIntent}
    {t u : HttpTarget} : source.Identifies i j t u ↔
      (i.origin = j.origin → i.operation = j.operation → i.resourceKey = j.resourceKey → t = u) := by
  constructor
  · intro h horigin hoperation hkey
    exact h.injective i.origin i.origin
      (toTransportRequest_eq_iff.mpr ⟨horigin, hoperation, hkey⟩)
  · intro h
    have hinjective : ∀ l a, i.toTransportRequest l a = j.toTransportRequest l a → t = u := by
      intro l a heq
      obtain ⟨horigin, hoperation, hkey⟩ := toTransportRequest_eq_iff.mp heq
      exact h horigin hoperation hkey
    refine ⟨hinjective, fun transport hbuilt l a hsends => ?_⟩
    exact hinjective l a (isRequest_toTransportRequest.mp (hbuilt.sends hsends))

/-! ## Renderers -/

/-- The entries of a list of names are equal where the values are. -/
theorem entries_eq_iff {i j : CredentialFreeSourceIntent} {names : List String}
    (hi : i.names = names) (hj : j.names = names) :
    i.parameters.map (fun p => (p.name.text, p.value)) =
        j.parameters.map (fun p => (p.name.text, p.value)) ↔
      ∀ name ∈ names, i.value name = j.value name := by
  rw [entries_eq_names, entries_eq_names, hi, hj, List.map_inj_left]
  refine forall₂_congr fun name hmem => ?_
  obtain ⟨value, hvalue⟩ := value_of_mem_names (hi ▸ hmem : name ∈ i.names)
  obtain ⟨value', hvalue'⟩ := value_of_mem_names (hj ▸ hmem : name ∈ j.names)
  simp [hvalue, hvalue']

/-- What an EDINET intent with a target asks for: the list of a day, or one document. -/
theorem renderEdinetHttpTarget_eq_ok {intent : CredentialFreeSourceIntent} {target : HttpTarget}
    (h : renderEdinetHttpTarget intent = .ok target) :
    (intent.operation.text = "document-list" ∧ intent.names = ["date", "type"] ∧
      intent.value "type" = some "2" ∧
      target = ⟨intent.origin, "/api/v2/documents.json",
        intent.parameters.map fun parameter => (parameter.name.text, parameter.value)⟩) ∨
    (intent.operation.text = "document-retrieval" ∧
      target = ⟨intent.origin, "/api/v2/documents/" ++ intent.resourceKey.text,
        [("type", "1")]⟩) := by
  simp only [renderEdinetHttpTarget, bind_eq_ok, require_eq_ok, exists_and_left] at h
  obtain ⟨-, -, h⟩ := h
  split at h
  · rename_i hlist
    obtain ⟨hoperation, -, hnames, htype⟩ := hlist
    cases h
    exact .inl ⟨hoperation, hnames, htype, rfl⟩
  · split at h
    · rename_i hretrieval
      simp only [bind_eq_ok, require_eq_ok, exists_and_left] at h
      obtain ⟨-, -, h⟩ := h
      cases h
      exact .inr ⟨hretrieval.1, rfl⟩
    · cases h

/-- The target of a BOJ intent is the one of its two months. -/
theorem renderBojHttpTarget_eq_ok {intent : CredentialFreeSourceIntent} {target : HttpTarget}
    (h : renderBojHttpTarget intent = .ok target) :
    intent.names = ["code", "db", "end_date", "format", "lang", "start_date"] ∧
      target = ⟨intent.origin, "/api/v1/getDataCode",
        [("code", "FXERD04"), ("db", "FM08"), ("endDate", (intent.value "end_date").getD ""),
          ("format", "json"), ("lang", "en"),
          ("startDate", (intent.value "start_date").getD "")]⟩ := by
  unfold renderBojHttpTarget at h
  split at h
  · rename_i happroved
    cases h
    exact ⟨happroved.2.2.2.2.1, rfl⟩
  · cases h

/-- The text of a period, after the endpoint. -/
def DukascopyPeriod.text : DukascopyPeriod → String
  | .year digits => "/" ++ digits
  | .since digits => "?from=" ++ digits

/-- The path and the query of a period. -/
def DukascopyPeriod.target : DukascopyPeriod → String × List (String × String)
  | .since digits => ("/v1/candles/day/USD-JPY/BID", [("from", digits)])
  | .year digits => ("/v1/candles/day/USD-JPY/BID/" ++ digits, [])

theorem DukascopyPeriod.target_injective {p q : DukascopyPeriod} (h : p.target = q.target) :
    p = q := by
  have hparts := Prod.mk.inj h
  cases p with
  | year digits =>
    cases q with
    | year digits' => exact congrArg year ((String.append_right_inj _).mp hparts.1)
    | since digits' => exact absurd hparts.2 (List.cons_ne_nil _ _).symm
  | since digits =>
    cases q with
    | year digits' => exact absurd hparts.2 (List.cons_ne_nil _ _)
    | since digits' =>
      exact congrArg since (Prod.mk.inj (List.cons.inj hparts.2).1).2

theorem DukascopyPeriod.text_injective {p q : DukascopyPeriod} (h : p.text = q.text) : p = q := by
  have hlists := congrArg String.toList h
  cases p with
  | year digits =>
    cases q with
    | year digits' => exact congrArg year ((String.append_right_inj _).mp h)
    | since digits' => simp [text] at hlists
  | since digits =>
    cases q with
    | year digits' => simp [text] at hlists
    | since digits' => exact congrArg since ((String.append_right_inj _).mp h)

/-- A text with a given start, put together again. -/
theorem ofList_drop_eq {start rest : List Char} {text : String} (h : start.isPrefixOf text.toList)
    (hrest : rest = text.toList.drop start.length) : text = String.ofList (start ++ rest) := by
  obtain ⟨after, hafter⟩ := List.isPrefixOf_iff_prefix.mp h
  rw [hrest, ← hafter, List.drop_left, hafter, String.ofList_toList]

/-- A matched URL is the endpoint followed by its period. -/
theorem matchDukascopyTarget_eq_some {url : String} {period : DukascopyPeriod}
    (h : matchDukascopyTarget url = some period) :
    url = dukascopyEndpoint ++ period.text := by
  have happend : ∀ {start : List Char}, start.isPrefixOf url.toList = true →
      url = String.ofList start ++ String.ofList (url.toList.drop start.length) := by
    intro start hstart
    rw [← String.ofList_append]
    exact ofList_drop_eq hstart rfl
  unfold matchDukascopyTarget at h
  simp only at h
  split at h
  · rename_i hyear
    cases h
    exact (happend hyear.1).trans (by simp [DukascopyPeriod.text, String.ofList_append,
      String.append_assoc])
  · split at h
    · rename_i hsince
      cases h
      exact (happend hsince.1).trans (by simp [DukascopyPeriod.text, String.ofList_append,
        String.append_assoc])
    · cases h

/-- The target of a Dukascopy intent is the one of the period of its URL. -/
theorem renderDukascopyHttpTarget_eq_ok {intent : CredentialFreeSourceIntent} {target : HttpTarget}
    (h : renderDukascopyHttpTarget intent = .ok target) :
    ∃ period : DukascopyPeriod, intent.value "url" = some (dukascopyEndpoint ++ period.text) ∧
      target = ⟨intent.origin, period.target.1, period.target.2⟩ := by
  simp only [renderDukascopyHttpTarget, bind_eq_ok, require_eq_ok, fetch_eq_ok,
    exists_and_left, Option.bind_eq_some_iff] at h
  obtain ⟨-, -, period, ⟨url, hurl, hmatch⟩, h⟩ := h
  refine ⟨period, hurl.trans (congrArg some (matchDukascopyTarget_eq_some hmatch)), ?_⟩
  cases period with
  | year digits =>
    simp only [pure_bind, bind_eq_ok, require_eq_ok, exists_and_left] at h
    obtain ⟨-, -, htarget⟩ := h
    cases htarget
    rfl
  | since digits =>
    simp only [pure_bind, bind_eq_ok, require_eq_ok, exists_and_left] at h
    obtain ⟨_, -, -, -, htarget⟩ := h
    cases htarget
    rfl

/-! ## Where requests identify targets -/

theorem edinet_target_eq_iff {i j : CredentialFreeSourceIntent} {t u : HttpTarget}
    (hi : renderEdinetHttpTarget i = .ok t) (hj : renderEdinetHttpTarget j = .ok u)
    (horigin : i.origin = j.origin) (hoperation : i.operation = j.operation)
    (hkey : i.resourceKey = j.resourceKey) : t = u ↔ RenderedSource.edinet.SameSend i j := by
  obtain ⟨hlist, hnames, htype, rfl⟩ | ⟨hretrieval, rfl⟩ := renderEdinetHttpTarget_eq_ok hi
  · obtain ⟨hlist', hnames', htype', rfl⟩ | ⟨hretrieval', rfl⟩ := renderEdinetHttpTarget_eq_ok hj
    · have hentries := entries_eq_iff hnames hnames'
      simp only [List.mem_cons, List.not_mem_nil, or_false, forall_eq_or_imp, forall_eq, htype,
        htype', and_true] at hentries
      simp [RenderedSource.SameSend, horigin, hentries, hlist, hlist']
    · rw [hoperation, hretrieval'] at hlist
      exact absurd hlist (by decide)
  · obtain ⟨hlist', -, -, rfl⟩ | ⟨hretrieval', rfl⟩ := renderEdinetHttpTarget_eq_ok hj
    · rw [← hoperation, hretrieval] at hlist'
      exact absurd hlist' (by decide)
    · refine iff_of_true (by rw [horigin, hkey]) fun hlist => ?_
      rw [hretrieval] at hlist
      exact absurd hlist (by decide)

theorem boj_target_eq_iff {i j : CredentialFreeSourceIntent} {t u : HttpTarget}
    (hi : renderBojHttpTarget i = .ok t) (hj : renderBojHttpTarget j = .ok u)
    (horigin : i.origin = j.origin) : t = u ↔ RenderedSource.boj.SameSend i j := by
  obtain ⟨hnames, rfl⟩ := renderBojHttpTarget_eq_ok hi
  obtain ⟨hnames', rfl⟩ := renderBojHttpTarget_eq_ok hj
  have hvalues : ∀ name, ∀ {k : CredentialFreeSourceIntent},
      k.names = ["code", "db", "end_date", "format", "lang", "start_date"] →
      name ∈ ["code", "db", "end_date", "format", "lang", "start_date"] →
      ∃ value, k.value name = some value :=
    fun _ _ hnames hmem => value_of_mem_names (hnames ▸ hmem)
  obtain ⟨start, hstart⟩ := hvalues "start_date" hnames (by simp)
  obtain ⟨start', hstart'⟩ := hvalues "start_date" hnames' (by simp)
  obtain ⟨finish, hfinish⟩ := hvalues "end_date" hnames (by simp)
  obtain ⟨finish', hfinish'⟩ := hvalues "end_date" hnames' (by simp)
  simp [RenderedSource.SameSend, horigin, hstart, hstart', hfinish, hfinish', and_comm]

theorem dukascopy_target_eq_iff {i j : CredentialFreeSourceIntent} {t u : HttpTarget}
    (hi : renderDukascopyHttpTarget i = .ok t) (hj : renderDukascopyHttpTarget j = .ok u)
    (horigin : i.origin = j.origin) (hkey : i.resourceKey = j.resourceKey) :
    t = u ↔ RenderedSource.dukascopy.SameSend i j := by
  obtain ⟨period, hurl, rfl⟩ := renderDukascopyHttpTarget_eq_ok hi
  obtain ⟨period', hurl', rfl⟩ := renderDukascopyHttpTarget_eq_ok hj
  simp only [RenderedSource.SameSend, hkey, hurl, hurl', Option.some.injEq,
    String.append_right_inj, forall_const, HttpTarget.mk.injEq, horigin, true_and]
  constructor
  · rintro ⟨hpath, hquery⟩
    rw [DukascopyPeriod.target_injective (Prod.ext hpath hquery)]
  · intro htext
    rw [DukascopyPeriod.text_injective htext]
    exact ⟨rfl, rfl⟩

theorem RenderedSource.target_eq_iff {source : RenderedSource} {i j : CredentialFreeSourceIntent}
    {t u : HttpTarget} (hi : source.render i = .ok t) (hj : source.render j = .ok u)
    (horigin : i.origin = j.origin) (hoperation : i.operation = j.operation)
    (hkey : i.resourceKey = j.resourceKey) : t = u ↔ source.SameSend i j := by
  cases source with
  | edinet => exact edinet_target_eq_iff hi hj horigin hoperation hkey
  | boj => exact boj_target_eq_iff hi hj horigin
  | dukascopy => exact dukascopy_target_eq_iff hi hj horigin hkey

theorem identifier_eq {a b : Identifier} {text : String} (ha : a.text = text)
    (hb : b.text = text) : a = b := by
  cases a
  cases b
  cases ha
  cases hb
  rfl

/-- Where the parameters decide different sends, the requests are equal: a renderer fixes
what it does not read them from. -/
theorem RenderedSource.request_eq_of_not_sameSend {source : RenderedSource}
    {i j : CredentialFreeSourceIntent} {t u : HttpTarget} (hi : source.render i = .ok t)
    (hj : source.render j = .ok u) (hsend : ¬ source.SameSend i j) :
    i.origin = j.origin ∧ i.operation = j.operation ∧ i.resourceKey = j.resourceKey := by
  cases source with
  -- the document list is asked for under one key
  | edinet =>
    simp only [SameSend, Classical.not_imp] at hsend
    obtain ⟨hlist, hlist', -⟩ := hsend
    have hfixed : ∀ {k : CredentialFreeSourceIntent} {v : HttpTarget},
        renderEdinetHttpTarget k = .ok v → k.operation.text = "document-list" →
        k.origin.text = "api.edinet-fsa.go.jp" ∧ k.resourceKey.text = "api-v2-documents" := by
      intro k v hk hoperation
      simp only [renderEdinetHttpTarget, bind_eq_ok, require_eq_ok, exists_and_left] at hk
      obtain ⟨⟨-, horigin⟩, -, hk⟩ := hk
      split at hk
      · rename_i hcase
        exact ⟨horigin, hcase.2.1⟩
      · split at hk
        · rename_i hcase
          rw [hoperation] at hcase
          exact absurd hcase.1 (by decide)
        · cases hk
    exact ⟨identifier_eq (hfixed hi hlist).1 (hfixed hj hlist').1, identifier_eq hlist hlist',
      identifier_eq (hfixed hi hlist).2 (hfixed hj hlist').2⟩
  -- everything is fixed
  | boj =>
    have hfixed : ∀ {k : CredentialFreeSourceIntent} {v : HttpTarget},
        renderBojHttpTarget k = .ok v → k.operation.text = "fx-daily-code" ∧
          k.origin.text = "www.stat-search.boj.or.jp" ∧
          k.resourceKey.text = "api-v1-getDataCode" := by
      intro k v hk
      unfold renderBojHttpTarget at hk
      split at hk
      · rename_i happroved
        exact ⟨happroved.2.1, happroved.2.2.1, happroved.2.2.2.1⟩
      · cases hk
    exact ⟨identifier_eq (hfixed hi).2.1 (hfixed hj).2.1,
      identifier_eq (hfixed hi).1 (hfixed hj).1, identifier_eq (hfixed hi).2.2 (hfixed hj).2.2⟩
  -- the URLs are compared under one resource key only
  | dukascopy =>
    simp only [SameSend, Classical.not_imp] at hsend
    have hfixed : ∀ {k : CredentialFreeSourceIntent} {v : HttpTarget},
        renderDukascopyHttpTarget k = .ok v → k.operation.text = "fx-daily-bid" ∧
          k.origin.text = "jetta.dukascopy.com" := by
      intro k v hk
      simp only [renderDukascopyHttpTarget, bind_eq_ok, require_eq_ok, exists_and_left] at hk
      exact ⟨hk.1.2.1, hk.1.2.2.1⟩
    exact ⟨identifier_eq (hfixed hi).2 (hfixed hj).2, identifier_eq (hfixed hi).1 (hfixed hj).1,
      hsend.1⟩

/-- A transport request identifies its target exactly where the two intents agree on what
the renderer reads beyond the resource key. -/
theorem request_identifies_iff (source : RenderedSource) (i j : CredentialFreeSourceIntent)
    (t u : HttpTarget) (hi : source.render i = .ok t) (hj : source.render j = .ok u) :
    source.Identifies i j t u ↔ source.SameSend i j := by
  rw [RenderedSource.identifies_iff]
  constructor
  · intro h
    by_contra hsend
    obtain ⟨horigin, hoperation, hkey⟩ := RenderedSource.request_eq_of_not_sameSend hi hj hsend
    exact hsend ((RenderedSource.target_eq_iff hi hj horigin hoperation hkey).mp
      (h horigin hoperation hkey))
  · intro hsend horigin hoperation hkey
    exact (RenderedSource.target_eq_iff hi hj horigin hoperation hkey).mpr hsend

/-! ## Two lists of one day each -/

namespace Sample

/-- A source parameter. -/
def parameter (name value : String) (hname : isIdentifier name = true)
    (hge : 1 ≤ value.length) (hle : value.length ≤ 512) : SourceParameter :=
  ⟨⟨name, hname⟩, value, hge, hle⟩

theorem listType_ge : 1 ≤ "2".length := by decide
theorem listType_le : "2".length ≤ 512 := by decide

/-- The intent for the list of a day. -/
def documentList (date : String) (hge : 1 ≤ date.length) (hle : date.length ≤ 512) :
    CredentialFreeSourceIntent where
  sourceId := ⟨"edinet", .refl true⟩
  operation := ⟨"document-list", .refl true⟩
  origin := ⟨"api.edinet-fsa.go.jp", .refl true⟩
  resourceKey := ⟨"api-v2-documents", .refl true⟩
  parameters := [parameter "date" date (.refl true) hge hle,
    parameter "type" "2" (.refl true) listType_ge listType_le]
  canonical := List.pairwise_pair.mpr (show "date" < "type" by decide)

/-- The lists of two days. -/
def firstDay : CredentialFreeSourceIntent := documentList "2024-01-04" (by decide) (by decide)
def secondDay : CredentialFreeSourceIntent := documentList "2024-01-05" (by decide) (by decide)

/-- The ids of a request. -/
def logicalRequest : Identifier := ⟨"l1", by decide⟩
def physicalAttempt : Identifier := ⟨"a1", by decide⟩

/-- A transport built for the second day, whose key is ready. -/
def secondDayTransport : EdinetPhysicalTransport := ⟨secondDay, none, true⟩

/-- The target of the list of a day. -/
def listTarget (date : String) : HttpTarget :=
  ⟨⟨"api.edinet-fsa.go.jp", .refl true⟩, "/api/v2/documents.json", [("date", date), ("type", "2")]⟩

end Sample

theorem Sample.toTransportRequest_documentList {date : String} (hge : 1 ≤ date.length)
    (hle : date.length ≤ 512) (l a : Identifier) :
    (documentList date hge hle).toTransportRequest l a =
      ⟨l, a, ⟨"api.edinet-fsa.go.jp", .refl true⟩, ⟨"document-list", .refl true⟩,
        ⟨"api-v2-documents", .refl true⟩⟩ := rfl

theorem Sample.render_documentList {date : String} (hge : 1 ≤ date.length)
    (hle : date.length ≤ 512) :
    renderEdinetHttpTarget (documentList date hge hle) = .ok (listTarget date) := by
  have hnames : (documentList date hge hle).names = ["date", "type"] := rfl
  have htype : (documentList date hge hle).value "type" = some "2" := by
    simp [CredentialFreeSourceIntent.value, documentList, parameter]
  unfold renderEdinetHttpTarget
  rw [hnames, htype]
  rfl

open Sample in
theorem request_identifies_iff_days :
    ¬ RenderedSource.edinet.Identifies firstDay secondDay (listTarget "2024-01-04")
      (listTarget "2024-01-05") := by
  rw [request_identifies_iff .edinet firstDay secondDay _ _ (render_documentList _ _)
    (render_documentList _ _)]
  exact fun hsame => absurd (hsame rfl rfl) (by decide)

open Sample in
/-- The list of a day is not the list of the next one, and their requests are one: the
transport of the second day sends for the request of the first. -/
theorem request_unidentified :
    renderEdinetHttpTarget firstDay = .ok (listTarget "2024-01-04") ∧
    renderEdinetHttpTarget secondDay = .ok (listTarget "2024-01-05") ∧
    listTarget "2024-01-04" ≠ listTarget "2024-01-05" ∧
    firstDay.toTransportRequest logicalRequest physicalAttempt =
      secondDay.toTransportRequest logicalRequest physicalAttempt ∧
    secondDayTransport.prepare (firstDay.toTransportRequest logicalRequest physicalAttempt) =
      .ok (listTarget "2024-01-05") := by
  have hsame : firstDay.toTransportRequest logicalRequest physicalAttempt =
      secondDay.toTransportRequest logicalRequest physicalAttempt :=
    (toTransportRequest_documentList _ _ _ _).trans (toTransportRequest_documentList _ _ _ _).symm
  refine ⟨render_documentList _ _, render_documentList _ _, by simp [listTarget], hsame, ?_⟩
  simp only [EdinetPhysicalTransport.prepare, bind_eq_ok, require_eq_ok, exists_and_left,
    exists_const]
  exact ⟨isRequest_toTransportRequest.mpr hsame, _, render_documentList _ _, rfl, rfl, rfl⟩

end StockResearch.Sources
