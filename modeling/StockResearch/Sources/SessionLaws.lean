import StockResearch.Lib.History
import StockResearch.Sources.CoordinatedSession

/-!
# What a session sends

However the library orders its requests, and whatever the exchange port answers, a session
sends each kind of chart request once and repeats one failed chart request at most once.

- `SessionLaw`: what holds of the log of a session and of its `complete`.
- `SessionOpen`: what an open session remembers of its log; the invariant of a run.
- `session_obeys`: the law, along every run whose steps meet a condition.
-/

namespace StockResearch.Sources

open Requests (LogicalResultOutcome)

/-! ## Parameters -/

/-- The parameters besides the crumb, unless they are no dictionary. -/
def Params.nonCrumb : Params → Option (List (PyObject × PyObject))
  | dict _ entries => some (withoutCrumb entries)
  | absent | other .none => some []
  | other _ => none

/-- Parameters that are the same except for the crumb, in some order. -/
def SameParameters (p q : Params) : Prop :=
  match p.nonCrumb, q.nonCrumb with
  | some entries, some entries' => entries.Perm entries'
  | none, none => p = q
  | _, _ => False

instance (p q : Params) : Decidable (SameParameters p q) := by
  unfold SameParameters
  split <;> infer_instance

/-- What a chart request of an intent has to ask for, by its kind. -/
def boundEntries (lib : SessionLibrary) (intent : DailyIntent) :
    ChartKind → List (PyObject × PyObject)
  | .timezone => [(.text "range", .text "1d"), (.text "interval", .text "1d")]
  | .history =>
    [(.text "period1", .int (lib.tokyoMidnight intent.start)),
      (.text "period2", .int (lib.tokyoMidnight intent.stop)), (.text "interval", .text "1d"),
      (.text "includePrePost", .bool false), (.text "events", .text "div,splits,capitalGains")]

theorem boundEntries_nodup (lib : SessionLibrary) (intent : DailyIntent) (kind : ChartKind) :
    (boundEntries lib intent kind).Nodup := by
  cases kind <;> simp [boundEntries]

/-- A dictionary that passes the comparison has exactly the expected entries. -/
theorem sameDictionary_perm {entries expected : List (PyObject × PyObject)}
    (hnodup : expected.Nodup) (h : sameDictionary entries expected = true) :
    expected.Perm entries := by
  obtain ⟨hlength, hsub⟩ := of_decide_eq_true h
  exact (List.subperm_of_subset hnodup hsub).perm_of_length_le hlength.le

/-- What `_chart_kind` found in a dictionary of parameters. -/
theorem chartKind_dict {identity : YahooRequestIdentity} {exact : Bool}
    {entries : List (PyObject × PyObject)} {kind : ChartKind}
    (h : chartKind identity (.dict exact entries) = .ok (some kind)) :
    match kind with
    | .timezone => getEntry entries "range" = some (.text "1d")
    | .history => getEntry entries "range" = none := by
  rw [chartKind] at h
  split at h
  · cases h
  · split at h
    · rename_i hrange
      obtain ⟨_, _, h⟩ := bind_eq_ok.mp h
      cases h
      exact hrange.1
    · obtain ⟨_, hnone, h⟩ := bind_eq_ok.mp h
      cases h
      exact Option.isNone_iff_eq_none.mp (require_eq_ok.mp hnone)

/-- A chart request of an intent asks for what its kind has to. -/
theorem validBoundChart_perm {lib : SessionLibrary} {intent : DailyIntent} {d : Dispatch}
    {kind : ChartKind} (hvalid : validBoundChart lib intent d = true)
    (hkind : chartKind d.identity d.params = .ok (some kind)) :
    ∃ entries, d.params.nonCrumb = some entries ∧ (boundEntries lib intent kind).Perm entries := by
  obtain ⟨-, hparams⟩ := Bool.and_eq_true_iff.mp hvalid
  split at hparams
  · rename_i entries heq
    obtain ⟨hsame, -⟩ := Bool.and_eq_true_iff.mp hparams
    rw [heq] at hkind
    refine ⟨withoutCrumb entries, by rw [heq]; rfl, ?_⟩
    have hexpected : expectedEntries lib intent entries = boundEntries lib intent kind := by
      have hrange := chartKind_dict hkind
      cases kind with
      | timezone => exact if_pos hrange
      | history => exact if_neg (by rw [hrange]; nofun)
    rw [hexpected] at hsame
    exact sameDictionary_perm (boundEntries_nodup lib intent kind) hsame
  · cases hparams

/-! ## The log -/

/-- The kind of a chart request. -/
def SessionEntry.chart? : SessionEntry → Option ChartKind
  | dispatched d _ => d.kind
  | _ => none

/-- The kind of a chart request that is no fallback. -/
def SessionEntry.first? : SessionEntry → Option ChartKind
  | dispatched d false => d.kind
  | _ => none

def SessionEntry.fallback? : SessionEntry → Option Unit
  | dispatched _ true => some ()
  | _ => none

def SessionEntry.Dispatches : SessionEntry → Prop
  | dispatched .. => True
  | _ => False

/-- The entry closes the session: a failed exchange, an invalid receipt, a rate limit, a
redirect, a rejected request or the end of the session. -/
def SessionEntry.Closes : SessionEntry → Prop
  | dispatched .. => False
  | answered _ status => status = 429 ∨ 300 ≤ status ∧ status < 400
  | failed _ | interrupted _ | rejected | finalized => True

/-- The strategy that the requests of a log lead to. -/
def strategyIn (log : List SessionEntry) : Strategy :=
  log.foldl (fun strategy entry =>
    match entry with
    | .dispatched d _ => strategyFor d.identity.endpoint strategy
    | _ => strategy) .basic

/-- `d`, sent after `before`, is the last request of the log with `P`, and `status` answered
it. -/
def LastAnswered (P : Dispatch → Prop) (log before : List SessionEntry) (d : Dispatch)
    (status : Int) : Prop :=
  ∃ fallback after, log = before ++ .dispatched d fallback :: after ∧ P d ∧
    .answered d status ∈ after ∧ ∀ d' fallback', .dispatched d' fallback' ∈ after → ¬ P d'

/-- A fallback repeats the last chart request, which failed, after a change of strategy. -/
def RepeatsFailure (log : List SessionEntry) (entry : SessionEntry) : Prop :=
  ∀ again, entry = .dispatched again true → ∃ before d status,
    LastAnswered (·.kind.isSome) log before d status ∧ 400 ≤ status ∧
    again.identity.method = d.identity.method ∧ again.url = d.url ∧ again.kind = d.kind ∧
    SameParameters d.params again.params ∧ strategyIn log ≠ strategyIn before

/-- What holds of a session after any number of steps. -/
structure SessionLaw (run : SessionRun) : Prop where
  charts : (run.log.filterMap (·.chart?)).length ≤ 3
  firstOnce : OncePer (·.first?) run.log
  fallbackOnce : OncePer (·.fallback?) run.log
  fallbacks : Supported RepeatsFailure run.log
  closed : run.log.Pairwise fun entry later => entry.Closes → ¬ later.Dispatches
  complete : run.session.complete = true → run.session.pendingFallback = none ∧
    ∃ before d status, LastAnswered (·.kind = some .history) run.log before d status ∧ status < 300
  finalized : ∀ port s, run.session.finalize .succeeded port = (.ok (), s) →
    run.session.complete = true

/-! ## Facts of logs -/

theorem strategyIn_concat (log : List SessionEntry) (entry : SessionEntry) :
    strategyIn (log ++ [entry]) =
      match entry with
      | .dispatched d _ => strategyFor d.identity.endpoint (strategyIn log)
      | _ => strategyIn log := by
  rw [strategyIn, List.foldl_append]
  rfl

/-- Other entries leave the last answered request what it is. -/
theorem LastAnswered.concat {P : Dispatch → Prop} {log before : List SessionEntry} {d : Dispatch}
    {status : Int} {entry : SessionEntry} (h : LastAnswered P log before d status)
    (hnew : ∀ d' fallback, entry = .dispatched d' fallback → ¬ P d') :
    LastAnswered P (log ++ [entry]) before d status := by
  obtain ⟨fallback, after, rfl, hd, hanswered, hlast⟩ := h
  refine ⟨fallback, after ++ [entry], by simp, hd, List.mem_append_left _ hanswered, ?_⟩
  intro d' fallback' hmem
  rcases List.mem_append.mp hmem with hmem | hmem
  · exact hlast d' fallback' hmem
  · exact hnew d' fallback' (List.mem_singleton.mp hmem).symm

/-- The answer to the request that was sent last. -/
theorem lastAnswered_concat {P : Dispatch → Prop} {before : List SessionEntry} {d : Dispatch}
    {fallback : Bool} {status : Int} (hd : P d) :
    LastAnswered P (before ++ [.dispatched d fallback] ++ [.answered d status]) before d status :=
  ⟨fallback, [.answered d status], by simp, hd, List.mem_singleton_self _, by simp⟩

/-- A chart request is the first of its kind or a fallback. -/
theorem chart_length_le (log : List SessionEntry) :
    (log.filterMap (·.chart?)).length ≤
      (log.filterMap (·.first?)).length + (log.filterMap (·.fallback?)).length := by
  induction log with
  | nil => exact Nat.zero_le 0
  | cons entry log ih =>
    have hcounted : entry.chart? = none ∨ entry.first?.isSome ∨ entry.fallback?.isSome := by
      cases entry with
      | dispatched d fallback =>
        cases fallback with
        | false =>
          cases hkind : d.kind with
          | none => exact .inl hkind
          | some kind => exact .inr (.inl (Option.isSome_iff_exists.mpr ⟨kind, hkind⟩))
        | true => exact .inr (.inr rfl)
      | _ => exact .inl rfl
    simp only [List.filterMap_cons]
    split <;> split <;> split <;> simp_all <;> omega

theorem kinds_length_le {kinds : List ChartKind} (h : kinds.Nodup) : kinds.length ≤ 2 := by
  have hsub : kinds ⊆ [.timezone, .history] := by
    intro kind _
    cases kind <;> simp
  exact (List.subperm_of_subset h hsub).length_le

theorem units_length_le {units : List Unit} (h : units.Nodup) : units.length ≤ 1 := by
  have hsub : units ⊆ [()] := fun _ _ => List.mem_singleton_self _
  exact (List.subperm_of_subset h hsub).length_le

/-! ## What a step does -/

/-- A chart request that `classified` let through, of a session with this intent. -/
structure Approved (lib : SessionLibrary) (intent : Option DailyIntent) (d : Dispatch) : Prop where
  endpoint : d.kind.isSome → d.identity.endpoint = "chart"
  bound : ∀ bound kind, intent = some bound → d.kind = some kind →
    ∃ entries, d.params.nonCrumb = some entries ∧ (boundEntries lib bound kind).Perm entries

/-- The chart endpoint is the only one of its class. -/
theorem classify_chart {lib : WireLibrary} {method url symbol : String}
    {identity : YahooRequestIdentity} (h : classify lib method url symbol = some identity)
    (hclass : identity.resourceClass = "chart") : identity.endpoint = "chart" := by
  have other {resource endpoint : String} {origin : String} (hne : resource ≠ "chart")
      (h : some ⟨method, origin, resource, endpoint⟩ = some identity) :
      identity.endpoint = "chart" := by
    obtain rfl := Option.some.inj h
    exact absurd hclass hne
  rw [classify] at h
  obtain ⟨parsed, -, h⟩ := Option.bind_eq_some_iff.mp h
  obtain ⟨-, -, h⟩ := Option.bind_eq_some_iff.mp h
  dsimp only at h
  generalize (if parsed.hostname.getD "" = "query1.finance.yahoo.com" then "crumb_basic"
    else "crumb_csrf") = crumb at h
  split at h
  · exact other (by decide) h
  split at h
  · exact other (by decide) h
  split at h
  · obtain ⟨-, -, h⟩ := Option.bind_eq_some_iff.mp h
    obtain rfl := Option.some.inj h
    rfl
  split at h
  · exact other (by decide) h
  split at h
  · exact other (by decide) h
  split at h
  · exact other (by decide) h
  · cases h

/-- Only a chart request has a kind. -/
theorem chartKind_some {identity : YahooRequestIdentity} {params : Params} {kind : ChartKind}
    (h : chartKind identity params = .ok (some kind)) : identity.resourceClass = "chart" := by
  by_contra hne
  unfold chartKind at h
  rw [if_pos hne] at h
  cases h

/-- A call that is classified makes an approved request. -/
theorem classified_ok {lib : SessionLibrary} {call : RequestCall} {s : CoordinatedSession}
    {d : Dispatch} (h : s.classified lib call = .ok d) :
    d.params = call.params ∧ Approved lib s.intent d := by
  rw [CoordinatedSession.classified] at h
  obtain ⟨identity, hidentity, h⟩ := bind_eq_ok.mp h
  obtain ⟨⟨⟩, hvalid, h⟩ := bind_eq_ok.mp h
  obtain ⟨kind, hkind, h⟩ := bind_eq_ok.mp h
  obtain rfl := pure_eq_ok.mp h
  refine ⟨rfl, ?_, ?_⟩
  · intro hsome
    obtain ⟨kind, rfl⟩ := Option.isSome_iff_exists.mp hsome
    exact classify_chart (fetch_eq_ok.mp hidentity) (chartKind_some hkind)
  · rintro bound kind hbound rfl
    have hvalid := require_eq_ok.mp hvalid
    rw [CoordinatedSession.validates, hbound, Option.all_some, chartKind_some hkind] at hvalid
    exact validBoundChart_perm hvalid hkind

namespace CoordinatedSession

/-- What the transition of a request to `d` found, and what it leaves. -/
inductive Admits (d : Dispatch) (s : CoordinatedSession) : Bool → CoordinatedSession → Prop
  | other (hkind : d.kind = none) : Admits d s false s
  | first {kind : ChartKind} (hkind : d.kind = some kind) (hpending : s.pendingFallback = none)
    (hnew : kind ∉ s.chartSent) : Admits d s false s
  | fallback {kind : ChartKind} (hkind : d.kind = some kind)
    (hpending : s.pendingFallback = some (d.fallbackTarget kind)) (hused : s.fallbackUsed = false)
    (hchanged : some s.strategy ≠ s.failedStrategy) :
    Admits d s true { s with fallbackUsed := true }

theorem checkTransition_ok {d : Dispatch} {s t : CoordinatedSession} {fallback : Bool}
    (h : s.checkTransition d = (.ok fallback, t)) :
    Admits d { s with strategy := strategyFor d.identity.endpoint s.strategy } fallback t := by
  rw [checkTransition] at h
  dsimp only at h
  split at h
  · rename_i hkind
    cases h
    exact .other hkind
  · rename_i kind hkind
    split at h
    · rename_i hpending
      split at h
      · cases h
      · rename_i hnew
        cases h
        exact .first hkind hpending hnew
    · rename_i pending hpending
      split at h
      · cases h
      · rename_i hok
        obtain ⟨hused, htarget, hchanged⟩ := not_or.mp hok |>.imp_right not_or.mp
        cases h
        refine .fallback hkind (hpending.trans ?_) (Bool.eq_false_iff.mpr hused) hchanged
        rw [not_not.mp htarget]

theorem checkTransition_error {d : Dispatch} {s t : CoordinatedSession} {code : String}
    (h : s.checkTransition d = (.error code, t)) :
    t = { s with strategy := strategyFor d.identity.endpoint s.strategy } := by
  rw [checkTransition] at h
  dsimp only at h
  split at h
  · cases h
  split at h
  · split at h
    · cases h
      rfl
    · cases h
  · split at h
    · cases h
      rfl
    · cases h

/-- A request that is dispatched: the session was open and idle. -/
theorem request_ok {lib : SessionLibrary} {call : RequestCall} {s s' : CoordinatedSession}
    {d : Dispatch} {fallback : Bool} (h : s.request lib call = (.ok (d, fallback), s')) :
    s.poisoned = false ∧ s.active = none ∧ d.params = call.params ∧ Approved lib s.intent d ∧
      ∃ t, Admits d { s with strategy := strategyFor d.identity.endpoint s.strategy } fallback t ∧
        s' = { t with active := some d, envelopeConsumed := false } := by
  rw [request] at h
  split at h
  · cases h
  rename_i hopen
  obtain ⟨hpoisoned, -, hactive⟩ := not_or.mp hopen |>.imp_right not_or.mp
  split at h
  · cases h
  split at h
  · cases h
  split at h
  · cases h
  split at h
  · cases h
  rename_i d' hclassified
  split at h
  · cases h
  split at h
  · cases h
  rename_i fallback' t htransition
  cases h
  obtain ⟨hparams, happroved⟩ := classified_ok hclassified
  exact ⟨Bool.eq_false_iff.mpr hpoisoned, Option.not_isSome_iff_eq_none.mp hactive, hparams,
    happroved, t, checkTransition_ok htransition, rfl⟩

/-- A rejected request closes the session, if its arguments can be copied and written. -/
theorem request_error {lib : SessionLibrary} {call : RequestCall} {s s' : CoordinatedSession}
    {code : String} (hcopied : call.copied = true) (hrendered : call.rendered = true)
    (h : s.request lib call = (.error code, s')) :
    s'.poisoned = true ∧ s'.intent = s.intent ∧ s'.active = s.active := by
  rw [request] at h
  split at h
  · cases h
    exact ⟨rfl, rfl, rfl⟩
  split at h
  · cases h
    exact ⟨rfl, rfl, rfl⟩
  split at h
  · cases h
    exact ⟨rfl, rfl, rfl⟩
  split at h
  · cases h
    exact ⟨rfl, rfl, rfl⟩
  rw [if_neg (fun hwrite => hwrite.2 hrendered)] at h
  split at h
  · rename_i hcheck
    cases h
    rw [checkTransition_error hcheck]
    exact ⟨rfl, rfl, rfl⟩
  · cases h

theorem assertActiveEnvelope_frame (lib : SessionLibrary) (check : EnvelopeCheck)
    (s : CoordinatedSession) :
    ∃ consumed, (s.assertActiveEnvelope lib check).2 = { s with envelopeConsumed := consumed } ∨
      (s.assertActiveEnvelope lib check).2 = s.poison := by
  rw [assertActiveEnvelope]
  split
  · exact ⟨true, .inr rfl⟩
  split
  · exact ⟨true, .inr rfl⟩
  split
  · exact ⟨s.envelopeConsumed, .inl rfl⟩
  split
  · exact ⟨true, .inl rfl⟩
  · exact ⟨s.envelopeConsumed, .inl rfl⟩

/-- What the answer to `d` leaves of an open session. -/
inductive Settles (d : Dispatch) (status : Int) (s : CoordinatedSession) :
    CoordinatedSession → Prop
  | other (hkind : d.kind = none) : Settles d status s s
  | failure {kind : ChartKind} (hkind : d.kind = some kind) (hstatus : 400 ≤ status)
    (hused : s.fallbackUsed = false) (hpending : s.pendingFallback = none) :
    Settles d status s { s with
      pendingFallback := some (d.fallbackTarget kind)
      failedStrategy := some s.strategy }
  | success {kind : ChartKind} (hkind : d.kind = some kind) (hstatus : status < 400) :
    Settles d status s { s with pendingFallback := none }

/-- A session that is open after the status is looked at. -/
theorem fallbackAfter_open {d : Dispatch} {status : Int} {s : CoordinatedSession}
    (hchart : d.kind.isSome → d.identity.endpoint = "chart")
    (h : (s.fallbackAfter d status).poisoned = false) :
    s.poisoned = false ∧ Settles d status s (s.fallbackAfter d status) := by
  rw [fallbackAfter] at h ⊢
  split at h
  · -- a failed status: only a first failure of a chart leaves the session open
    rename_i hfailure
    rw [if_pos hfailure]
    split at h
    · rename_i kind hkind
      split at h
      · rename_i hpending
        rw [if_pos hpending]
        exact ⟨h, .failure hkind (of_decide_eq_true hfailure).1 hpending.1 hpending.2⟩
      · cases h
    · cases h
  · -- any other status
    rename_i hfailure
    rw [if_neg hfailure]
    split at h
    · rename_i hsome
      rw [if_pos hsome]
      obtain ⟨kind, hkind⟩ := Option.isSome_iff_exists.mp hsome
      refine ⟨h, .success hkind ?_⟩
      -- a chart is not the cookie endpoint, so a bad status would be a failure
      by_contra hstatus
      refine hfailure (decide_eq_true ⟨not_lt.mp hstatus, ?_⟩)
      rintro ⟨hcookie, -⟩
      rw [hchart hsome] at hcookie
      exact absurd hcookie (by decide)
    · rename_i hnone
      rw [if_neg hnone]
      exact ⟨h, .other (Option.not_isSome_iff_eq_none.mp hnone)⟩

/-- A session that is open after an exchange was open before, and got an answer that is no rate
limit and no redirect. -/
theorem exchanged_open {d : Dispatch} {outcome : ExchangeEnd} {s : CoordinatedSession}
    (hreturned : outcome ≠ .interrupted) (hchart : d.kind.isSome → d.identity.endpoint = "chart")
    (h : (s.exchanged d outcome).2.poisoned = false) :
    s.poisoned = false ∧ ∃ status t, outcome.entry d = .answered d status ∧ status ≠ 429 ∧
      ¬ (300 ≤ status ∧ status < 400) ∧ Settles d status { s with active := none } t ∧
      (s.exchanged d outcome).2 =
        { t with chartSent := t.chartSent ++ (d.kind.filter (· ∉ t.chartSent)).toList } := by
  cases outcome with
  | interrupted => exact absurd rfl hreturned
  | raised => cases h
  | returned receipt =>
    rw [exchanged] at h ⊢
    rw [ExchangeEnd.entry]
    cases hstatus : receipt.bind (·.status? d) with
    | none =>
      rw [hstatus] at h
      cases h
    | some status =>
      rw [hstatus] at h
      dsimp only at h ⊢
      rw [CoordinatedSession.answered] at h ⊢
      split at h
      · cases h
      split at h
      · cases h
      rename_i hlimit hredirect
      rw [if_neg hlimit, if_neg hredirect]
      obtain ⟨hopen, hsettles⟩ := fallbackAfter_open hchart h
      exact ⟨hopen, status, _, rfl, hlimit, hredirect, hsettles, rfl⟩

/-- An exchange that closes the session in the log closes it. -/
theorem exchanged_closes {d : Dispatch} {outcome : ExchangeEnd} {s : CoordinatedSession}
    (hreturned : outcome ≠ .interrupted) (hcloses : (outcome.entry d).Closes) :
    (s.exchanged d outcome).2.poisoned = true := by
  cases outcome with
  | interrupted => exact absurd rfl hreturned
  | raised => rfl
  | returned receipt =>
    rw [exchanged]
    rw [ExchangeEnd.entry] at hcloses
    cases hstatus : receipt.bind (·.status? d) with
    | none => rfl
    | some status =>
      rw [hstatus] at hcloses
      dsimp only
      rw [CoordinatedSession.answered]
      split
      · rfl
      rename_i hlimit
      rw [if_pos (hcloses.resolve_left hlimit)]
      rfl

theorem exchanged_frame (d : Dispatch) (outcome : ExchangeEnd) (s : CoordinatedSession) :
    (s.exchanged d outcome).2.intent = s.intent ∧ (s.exchanged d outcome).2.active = none := by
  have hfallback (status : Int) (s : CoordinatedSession) :
      (s.fallbackAfter d status).intent = s.intent ∧
        (s.fallbackAfter d status).active = s.active := by
    rw [fallbackAfter]
    repeat' split
    all_goals exact ⟨rfl, rfl⟩
  cases outcome with
  | interrupted => exact ⟨rfl, rfl⟩
  | raised => exact ⟨rfl, rfl⟩
  | returned receipt =>
    rw [exchanged]
    cases receipt.bind (·.status? d) with
    | none => exact ⟨rfl, rfl⟩
    | some status =>
      dsimp only
      rw [CoordinatedSession.answered]
      split
      · exact ⟨rfl, rfl⟩
      split
      · exact ⟨rfl, rfl⟩
      · exact hfallback status { s with active := none }

theorem finalize_cases (outcome : LogicalResultOutcome) (port : PortFinalization)
    (s : CoordinatedSession) :
    (∃ code, s.finalize outcome port = (.error code, s)) ∨
      s.finalize outcome port = (.ok (), { s with finalized := true, poisoned := true }) ∧
        (outcome = .succeeded → s.complete = true) := by
  rw [finalize]
  split
  · exact .inl ⟨_, rfl⟩
  split
  · exact .inl ⟨_, rfl⟩
  split
  · exact .inl ⟨_, rfl⟩
  split
  · exact .inl ⟨_, rfl⟩
  rename_i hcomplete _
  refine .inr ⟨rfl, fun hsucceeded => ?_⟩
  by_contra hne
  exact hcomplete ⟨hsucceeded, Bool.eq_false_iff.mpr hne⟩

end CoordinatedSession

/-! ## The invariant -/

/-- What an open session remembers of its log. -/
structure SessionOpen (run : SessionRun) : Prop where
  strategy : run.session.strategy = strategyIn run.log
  active : ∀ d, run.session.active = some d →
    ∃ before fallback, run.log = before ++ [.dispatched d fallback]
  activePending : ∀ d kind, run.session.active = some d → d.kind = some kind →
    ∀ target, run.session.pendingFallback = some target → target.2.2.1 = kind
  sent : ∀ d fallback kind, .dispatched d fallback ∈ run.log → d.kind = some kind →
    kind ∈ run.session.chartSent ∨ run.session.active = some d
  fallbackUsed : ∀ d, .dispatched d true ∈ run.log → run.session.fallbackUsed = true
  pending : run.session.fallbackUsed = false →
    ∀ target, run.session.pendingFallback = some target → ∃ before d kind status,
      LastAnswered (·.kind.isSome) run.log before d status ∧ 400 ≤ status ∧
      d.kind = some kind ∧ target = d.fallbackTarget kind ∧
      run.session.failedStrategy = some (strategyIn before)
  history : .history ∈ run.session.chartSent →
    (∃ target, run.session.pendingFallback = some target ∧ target.2.2.1 = .history) ∨
    ∃ before d status, LastAnswered (·.kind = some .history) run.log before d status ∧ status < 300

/-- What a run keeps. -/
structure SessionInvariant (lib : SessionLibrary) (run : SessionRun) : Prop where
  approved : ∀ d fallback, .dispatched d fallback ∈ run.log → Approved lib run.session.intent d
  activeSent : ∀ d, run.session.active = some d → ∃ fallback, .dispatched d fallback ∈ run.log
  firstOnce : OncePer (·.first?) run.log
  fallbackOnce : OncePer (·.fallback?) run.log
  fallbacks : Supported RepeatsFailure run.log
  closed : run.log.Pairwise fun entry later => entry.Closes → ¬ later.Dispatches
  poisoned : ∀ entry ∈ run.log, entry.Closes → run.session.poisoned = true
  open_ : run.session.poisoned = false → SessionOpen run

/-- The condition on a step: its arguments can be copied and written, the exchange ends with a
value or an `Exception`, and, in a session for a symbol only, a fallback that is dispatched has
the parameters of a failed chart request if they are written alike. -/
def Faithful (lib : SessionLibrary) (step : YahooStep) (run : SessionRun) : Prop :=
  match step with
  | .request call =>
    call.copied = true ∧ call.rendered = true ∧
      (run.session.intent = none →
        ∀ again s, run.session.request lib call = (.ok (again, true), s) →
          ∀ d status, .answered d status ∈ run.log → d.kind.isSome → 400 ≤ status →
            d.params.target = call.params.target → SameParameters d.params call.params)
  | .exchangeEnds outcome => outcome ≠ .interrupted
  | .assertEnvelope _ | .finalize _ _ => True

theorem pairwise_concat {α : Type} {R : α → α → Prop} {xs : List α} {x : α}
    (hxs : xs.Pairwise R) (hx : ∀ y ∈ xs, R y x) : (xs ++ [x]).Pairwise R :=
  List.pairwise_append.mpr ⟨hxs, List.pairwise_singleton R x, fun y hy _ hz =>
    List.mem_singleton.mp hz ▸ hx y hy⟩

/-- An entry that is no dispatch keeps the facts of the log. -/
theorem SessionInvariant.extend {lib : SessionLibrary} {run : SessionRun}
    {s : CoordinatedSession} {entry : SessionEntry} (h : SessionInvariant lib run)
    (hentry : ∀ d fallback, entry ≠ .dispatched d fallback)
    (hcloses : entry.Closes → s.poisoned = true)
    (hpoisoned : run.session.poisoned = true → s.poisoned = true)
    (hintent : s.intent = run.session.intent)
    (hactive : ∀ d, s.active = some d → run.session.active = some d)
    (hopen : s.poisoned = false → SessionOpen ⟨s, run.log ++ [entry]⟩) :
    SessionInvariant lib ⟨s, run.log ++ [entry]⟩ := by
  -- the entry counts neither as a first dispatch nor as a fallback
  have hfirst : entry.first? = none := by
    cases entry with
    | dispatched d fallback => exact absurd rfl (hentry d fallback)
    | _ => rfl
  have hfallback : entry.fallback? = none := by
    cases entry with
    | dispatched d fallback => exact absurd rfl (hentry d fallback)
    | _ => rfl
  refine ⟨?_, ?_, h.firstOnce.skip hfirst, h.fallbackOnce.skip hfallback,
    h.fallbacks.concat ?_, pairwise_concat h.closed ?_, ?_, hopen⟩
  · intro d fallback hmem
    rw [hintent]
    rcases List.mem_append.mp hmem with hmem | hmem
    · exact h.approved d fallback hmem
    · exact absurd (List.mem_singleton.mp hmem).symm (hentry d fallback)
  · intro d hd
    obtain ⟨fallback, hmem⟩ := h.activeSent d (hactive d hd)
    exact ⟨fallback, List.mem_append_left _ hmem⟩
  · intro again hagain
    exact absurd hagain (hentry again true)
  · intro _ _ _
    cases entry with
    | dispatched d fallback => exact absurd rfl (hentry d fallback)
    | _ => exact id
  · intro entry' hmem hcloses'
    rcases List.mem_append.mp hmem with hmem | hmem
    · exact hpoisoned (h.poisoned entry' hmem hcloses')
    · obtain rfl := List.mem_singleton.mp hmem
      exact hcloses hcloses'

/-- A session that closes only has to keep the facts of the log. -/
theorem SessionInvariant.closing {lib : SessionLibrary} {run : SessionRun}
    {s : CoordinatedSession} {entry : SessionEntry} (h : SessionInvariant lib run)
    (hentry : ∀ d fallback, entry ≠ .dispatched d fallback) (hpoisoned : s.poisoned = true)
    (hintent : s.intent = run.session.intent)
    (hactive : ∀ d, s.active = some d → run.session.active = some d) :
    SessionInvariant lib ⟨s, run.log ++ [entry]⟩ :=
  h.extend hentry (fun _ => hpoisoned) (fun _ => hpoisoned) hintent hactive
    fun hopen => absurd (hpoisoned.symm.trans hopen) nofun

/-- The parameters of a fallback are those of the request it repeats. -/
theorem sameParameters_of_target {lib : SessionLibrary} {run : SessionRun} {call : RequestCall}
    {d again : Dispatch} {kind : ChartKind} {status : Int} {s : CoordinatedSession}
    (hfaithful : Faithful lib (.request call) run)
    (hok : run.session.request lib call = (.ok (again, true), s))
    (hcall : again.params = call.params)
    (hd : Approved lib run.session.intent d) (hagain : Approved lib run.session.intent again)
    (hkind : d.kind = some kind) (hkind' : again.kind = some kind)
    (hanswered : .answered d status ∈ run.log) (hstatus : 400 ≤ status)
    (htarget : d.params.target = again.params.target) : SameParameters d.params again.params := by
  cases hintent : run.session.intent with
  | none =>
    rw [hcall] at htarget ⊢
    exact hfaithful.2.2 hintent again s hok d status hanswered (by rw [hkind]; rfl) hstatus htarget
  | some intent =>
    obtain ⟨entries, hentries, hperm⟩ := hd.bound intent kind hintent hkind
    obtain ⟨entries', hentries', hperm'⟩ := hagain.bound intent kind hintent hkind'
    rw [SameParameters, hentries, hentries']
    exact hperm.symm.trans hperm'

theorem strategyFor_chart (strategy : Strategy) : strategyFor "chart" strategy = strategy := rfl

/-- A fallback that is admitted repeats the last chart request. -/
theorem SessionInvariant.repeats {lib : SessionLibrary} {run : SessionRun} {call : RequestCall}
    {d : Dispatch} {s t : CoordinatedSession} (h : SessionInvariant lib run)
    (hopen : SessionOpen run) (hfaithful : Faithful lib (.request call) run)
    (hok : run.session.request lib call = (.ok (d, true), s))
    (hcall : d.params = call.params) (hd : Approved lib run.session.intent d)
    (hadmits : CoordinatedSession.Admits d { run.session with
      strategy := strategyFor d.identity.endpoint run.session.strategy } true t) :
    RepeatsFailure run.log (.dispatched d true) := by
  rintro again ⟨⟩
  cases hadmits with
  | fallback hkind hpending hused hchanged =>
    obtain ⟨before, failed, kind, status, hlast, hstatus, hkind', htarget, hstrategy⟩ :=
      hopen.pending hused _ hpending
    rename_i kind'
    obtain ⟨hmethod, hurl, hkinds, hparams⟩ : d.identity.method = failed.identity.method ∧
        d.url = failed.url ∧ kind' = kind ∧ d.params.target = failed.params.target := by
      simpa only [Dispatch.fallbackTarget, Prod.mk.injEq] using htarget
    subst hkinds
    obtain ⟨fallback, after, hlog, -, hanswered, -⟩ := id hlast
    have hfailed : Approved lib run.session.intent failed :=
      h.approved failed fallback (by rw [hlog]; simp)
    refine ⟨before, failed, status, hlast, hstatus, hmethod, hurl, hkind.trans hkind'.symm, ?_, ?_⟩
    · exact sameParameters_of_target hfaithful hok hcall hfailed hd hkind' hkind
        (by rw [hlog]; exact List.mem_append_right _ (List.mem_cons_of_mem _ hanswered)) hstatus
        hparams.symm
    · intro heq
      refine hchanged ?_
      dsimp only
      rw [hstrategy, hd.endpoint (by rw [hkind]; rfl), strategyFor_chart, hopen.strategy, heq]

theorem SessionInvariant.not_closes {lib : SessionLibrary} {run : SessionRun}
    (h : SessionInvariant lib run) (hopen : run.session.poisoned = false) {entry : SessionEntry}
    (hmem : entry ∈ run.log) : ¬ entry.Closes := fun hcloses =>
  absurd ((h.poisoned entry hmem hcloses).symm.trans hopen) nofun

/-- A dispatch keeps what an open session remembers. -/
theorem SessionOpen.dispatch {run : SessionRun} {d : Dispatch} {fallback : Bool}
    {t : CoordinatedSession} (h : SessionOpen run) (hidle : run.session.active = none)
    (hadmits : CoordinatedSession.Admits d { run.session with
      strategy := strategyFor d.identity.endpoint run.session.strategy } fallback t) :
    SessionOpen ⟨{ t with active := some d, envelopeConsumed := false },
      run.log ++ [.dispatched d fallback]⟩ := by
  -- a chart that was dispatched is sent, or is the one in flight
  have hsent (d' : Dispatch) (fallback' : Bool) (kind : ChartKind)
      (hmem : SessionEntry.dispatched d' fallback' ∈ run.log ++ [.dispatched d fallback])
      (hkind : d'.kind = some kind) : kind ∈ run.session.chartSent ∨ some d = some d' := by
    rcases List.mem_append.mp hmem with hmem | hmem
    · rcases h.sent d' fallback' kind hmem hkind with hsent | hactive
      · exact .inl hsent
      · exact absurd (hidle.symm.trans hactive) nofun
    · cases List.mem_singleton.mp hmem
      exact .inr rfl
  have hstrategy : strategyFor d.identity.endpoint run.session.strategy =
      strategyIn (run.log ++ [.dispatched d fallback]) := by
    rw [strategyIn_concat, h.strategy]
  have hactive : ∀ d', some d = some d' → ∃ before fallback',
      run.log ++ [.dispatched d fallback] = before ++ [.dispatched d' fallback'] := by
    rintro d' ⟨⟩
    exact ⟨run.log, fallback, rfl⟩
  -- an earlier fallback has used the only one
  have hused (hfallback : fallback = false) (d' : Dispatch)
      (hmem : SessionEntry.dispatched d' true ∈ run.log ++ [.dispatched d fallback]) :
      run.session.fallbackUsed = true := by
    rcases List.mem_append.mp hmem with hmem | hmem
    · exact h.fallbackUsed d' hmem
    · cases List.mem_singleton.mp hmem
      cases hfallback
  -- answers of other dispatches stay the last of their kind
  have hother (P : Dispatch → Prop) (hP : ¬ P d) (d' : Dispatch) (fallback' : Bool)
      (heq : SessionEntry.dispatched d fallback = .dispatched d' fallback') : ¬ P d' := by
    cases heq
    exact hP
  cases hadmits with
  -- no chart: nothing the session remembers of charts changes
  | other hkind =>
    refine ⟨hstrategy, hactive, ?_, hsent, hused rfl, ?_, ?_⟩
    · rintro d' kind ⟨⟩ hkind'
      exact absurd (hkind.symm.trans hkind') nofun
    · intro hunused target hpending
      obtain ⟨before, failed, kind, status, hlast, hrest⟩ := h.pending hunused target hpending
      exact ⟨before, failed, kind, status,
        hlast.concat (hother _ (by rw [hkind]; nofun)), hrest⟩
    · intro hmem
      rcases h.history hmem with hpending | ⟨before, d', status, hlast, hstatus⟩
      · exact .inl hpending
      · exact .inr ⟨before, d', status, hlast.concat (hother _ (by rw [hkind]; nofun)), hstatus⟩
  -- the first dispatch of a kind, while no fallback is pending
  | first hkind hpending hnew =>
    refine ⟨hstrategy, hactive, ?_, hsent, hused rfl, ?_, ?_⟩
    · intro _ _ _ _ target htarget
      exact absurd (hpending.symm.trans htarget) nofun
    · intro _ target htarget
      exact absurd (hpending.symm.trans htarget) nofun
    · intro hmem
      rcases h.history hmem with ⟨target, htarget, -⟩ | ⟨before, d', status, hlast, hstatus⟩
      · exact absurd (hpending.symm.trans htarget) nofun
      · refine .inr ⟨before, d', status, hlast.concat (hother _ ?_), hstatus⟩
        intro hhistory
        obtain rfl := Option.some.inj (hkind.symm.trans hhistory)
        exact hnew hmem
  -- the one fallback that is pending
  | fallback hkind hpending hunused hchanged =>
    refine ⟨hstrategy, hactive, ?_, hsent, fun _ _ => rfl, nofun, ?_⟩
    · rintro d' kind ⟨⟩ hkind' target htarget
      obtain rfl := Option.some.inj (hkind.symm.trans hkind')
      obtain rfl := Option.some.inj (hpending.symm.trans htarget)
      rfl
    · rename_i kind
      intro hmem
      by_cases hhistory : kind = .history
      · exact .inl ⟨_, hpending, hhistory⟩
      rcases h.history hmem with ⟨target, htarget, hkind'⟩ | ⟨before, d', status, hlast, hstatus⟩
      · obtain rfl := Option.some.inj (hpending.symm.trans htarget)
        exact absurd hkind' hhistory
      · refine .inr ⟨before, d', status, hlast.concat (hother _ ?_), hstatus⟩
        rw [hkind]
        exact fun heq => hhistory (Option.some.inj heq)

/-- A request that is dispatched. -/
theorem SessionInvariant.dispatch {lib : SessionLibrary} {run : SessionRun} {call : RequestCall}
    {d : Dispatch} {fallback : Bool} {s : CoordinatedSession} (h : SessionInvariant lib run)
    (hfaithful : Faithful lib (.request call) run)
    (hok : run.session.request lib call = (.ok (d, fallback), s)) :
    SessionInvariant lib ⟨s, run.log ++ [.dispatched d fallback]⟩ := by
  obtain ⟨hunpoisoned, hidle, hcall, happroved, t, hadmits, rfl⟩ :=
    CoordinatedSession.request_ok hok
  have hopen := h.open_ hunpoisoned
  have hintent : t.intent = run.session.intent := by cases hadmits <;> rfl
  refine ⟨?_, ?_, ?_, ?_, h.fallbacks.concat ?_, pairwise_concat h.closed ?_, ?_, ?_⟩
  · intro d' fallback' hmem
    dsimp only
    rw [hintent]
    rcases List.mem_append.mp hmem with hmem | hmem
    · exact h.approved d' fallback' hmem
    · cases List.mem_singleton.mp hmem
      exact happroved
  · rintro d' ⟨⟩
    exact ⟨fallback, List.mem_append_right _ (List.mem_singleton_self _)⟩
  · -- no kind is dispatched first twice
    cases hadmits with
    | other hkind => exact h.firstOnce.skip hkind
    | fallback => exact h.firstOnce.skip rfl
    | first hkind hpending hnew =>
      refine h.firstOnce.concat hkind ?_
      intro entry hmem hlabel
      match entry, hlabel with
      | .dispatched d' false, hlabel =>
        rcases hopen.sent d' false _ hmem hlabel with hsent | hactive
        · exact hnew hsent
        · exact absurd (hidle.symm.trans hactive) nofun
  · -- and there is one fallback
    cases hadmits with
    | other => exact h.fallbackOnce.skip rfl
    | first => exact h.fallbackOnce.skip rfl
    | fallback hkind hpending hunused hchanged =>
      refine h.fallbackOnce.concat rfl ?_
      intro entry hmem hlabel
      match entry, hlabel with
      | .dispatched d' true, _ =>
        exact absurd ((hopen.fallbackUsed d' hmem).symm.trans hunused) nofun
  · cases fallback with
    | false => rintro again ⟨⟩
    | true => exact h.repeats hopen hfaithful hok hcall happroved hadmits
  · -- nothing is dispatched after an entry that closes the session
    intro entry hmem hcloses
    exact absurd hcloses (h.not_closes hunpoisoned hmem)
  · intro entry hmem hcloses
    rcases List.mem_append.mp hmem with hmem | hmem
    · exact absurd hcloses (h.not_closes hunpoisoned hmem)
    · obtain rfl := List.mem_singleton.mp hmem
      exact hcloses.elim
  · intro _
    exact hopen.dispatch hidle hadmits

/-- An answer keeps what an open session remembers. -/
theorem SessionOpen.settle {run : SessionRun} {d : Dispatch} {status : Int}
    {t : CoordinatedSession} (h : SessionOpen run) (hactive : run.session.active = some d)
    (hchart : d.kind.isSome → d.identity.endpoint = "chart")
    (hredirect : ¬ (300 ≤ status ∧ status < 400))
    (hsettles : CoordinatedSession.Settles d status { run.session with active := none } t) :
    SessionOpen ⟨{ t with chartSent := t.chartSent ++ (d.kind.filter (· ∉ t.chartSent)).toList },
      run.log ++ [.answered d status]⟩ := by
  have hnew (P : Dispatch → Prop) (d' : Dispatch) (fallback' : Bool)
      (heq : SessionEntry.answered d status = .dispatched d' fallback') : ¬ P d' := by cases heq
  -- the charts sent are those before and the one that is answered
  have hmem (sent : List ChartKind) (kind : ChartKind) :
      kind ∈ sent ++ (d.kind.filter (· ∉ sent)).toList ↔ kind ∈ sent ∨ d.kind = some kind := by
    by_cases hin : kind ∈ sent
    · simp [hin]
    · rw [List.mem_append, Option.mem_toList, Option.filter_eq_some_iff]
      simp [hin]
  have hstrategy : run.session.strategy = strategyIn (run.log ++ [.answered d status]) := by
    rw [strategyIn_concat, h.strategy]
  have hsent (d' : Dispatch) (fallback' : Bool) (kind : ChartKind)
      (hentry : SessionEntry.dispatched d' fallback' ∈ run.log ++ [.answered d status])
      (hkind : d'.kind = some kind) : kind ∈ run.session.chartSent ∨ d.kind = some kind := by
    rcases List.mem_append.mp hentry with hentry | hentry
    · rcases h.sent d' fallback' kind hentry hkind with hsent | hsame
      · exact .inl hsent
      · cases hactive.symm.trans hsame
        exact .inr hkind
    · cases List.mem_singleton.mp hentry
  have hused (d' : Dispatch)
      (hentry : SessionEntry.dispatched d' true ∈ run.log ++ [.answered d status]) :
      run.session.fallbackUsed = true := by
    rcases List.mem_append.mp hentry with hentry | hentry
    · exact h.fallbackUsed d' hentry
    · cases List.mem_singleton.mp hentry
  obtain ⟨before, fallback, hlog⟩ := h.active d hactive
  -- this answer is the last of its dispatch
  have hlast {P : Dispatch → Prop} (hP : P d) :
      LastAnswered P (run.log ++ [.answered d status]) before d status := by
    rw [hlog]
    exact lastAnswered_concat hP
  cases hsettles with
  -- no chart: the answers of charts are those before
  | other hkind =>
    refine ⟨hstrategy, nofun, nofun, ?_, hused, ?_, ?_⟩
    · intro d' fallback' kind hentry hkind'
      exact .inl ((hmem _ kind).mpr (hsent d' fallback' kind hentry hkind'))
    · intro hunused target hpending
      obtain ⟨before, failed, kind, status, hfailed, hrest⟩ := h.pending hunused target hpending
      exact ⟨before, failed, kind, status, hfailed.concat (hnew _), hrest⟩
    · intro hhistory
      rcases (hmem _ _).mp hhistory with hhistory | hhistory
      · rcases h.history hhistory with hpending | ⟨before, d', status, hanswered, hstatus⟩
        · exact .inl hpending
        · exact .inr ⟨before, d', status, hanswered.concat (hnew _), hstatus⟩
      · exact absurd (hkind.symm.trans hhistory) nofun
  -- the failure that makes a fallback pending
  | failure hkind hstatus hunused hpending =>
    refine ⟨hstrategy, nofun, nofun, ?_, hused, ?_, ?_⟩
    · intro d' fallback' kind hentry hkind'
      exact .inl ((hmem _ kind).mpr (hsent d' fallback' kind hentry hkind'))
    · rintro _ target ⟨⟩
      refine ⟨before, d, _, status, hlast (by rw [hkind]; rfl), hstatus, hkind, rfl, ?_⟩
      dsimp only
      rw [h.strategy, hlog, strategyIn_concat]
      dsimp only
      rw [hchart (by rw [hkind]; rfl), strategyFor_chart]
    · intro hhistory
      rcases (hmem _ _).mp hhistory with hhistory | hhistory
      · rcases h.history hhistory with ⟨target, htarget, -⟩ | ⟨before, d', status, hanswered, hok⟩
        · exact absurd (hpending.symm.trans htarget) nofun
        · exact .inr ⟨before, d', status, hanswered.concat (hnew _), hok⟩
      · exact .inl ⟨_, rfl, Option.some.inj (hkind.symm.trans hhistory)⟩
  -- a success, of the first try or of the fallback
  | success hkind hstatus =>
    refine ⟨hstrategy, nofun, nofun, ?_, hused, nofun, ?_⟩
    · intro d' fallback' kind hentry hkind'
      exact .inl ((hmem _ kind).mpr (hsent d' fallback' kind hentry hkind'))
    · intro hhistory
      by_cases hkind' : d.kind = some .history
      · refine .inr ⟨before, d, status, hlast hkind', ?_⟩
        by_contra hlarge
        exact hredirect ⟨not_lt.mp hlarge, hstatus⟩
      · rcases h.history (((hmem _ _).mp hhistory).resolve_right hkind') with
          ⟨target, htarget, hsame⟩ | ⟨before, d', status, hanswered, hok⟩
        · have heq := h.activePending d _ hactive hkind target htarget
          rw [hkind, ← heq, hsame] at hkind'
          exact absurd rfl hkind'
        · exact .inr ⟨before, d', status, hanswered.concat (hnew _), hok⟩

/-- The end of an exchange. -/
theorem SessionInvariant.exchangeEnds {lib : SessionLibrary} {run : SessionRun} {d : Dispatch}
    {outcome : ExchangeEnd} (h : SessionInvariant lib run)
    (hreturned : outcome ≠ .interrupted) (hactive : run.session.active = some d) :
    SessionInvariant lib ⟨(run.session.exchanged d outcome).2, run.log ++ [outcome.entry d]⟩ := by
  obtain ⟨hintent, hidle⟩ := CoordinatedSession.exchanged_frame d outcome run.session
  have hentry (d' : Dispatch) (fallback : Bool) : outcome.entry d ≠ .dispatched d' fallback := by
    cases outcome with
    | interrupted => exact absurd rfl hreturned
    | raised => rintro ⟨⟩
    | returned receipt =>
      rw [ExchangeEnd.entry]
      cases receipt.bind (·.status? d) <;> rintro ⟨⟩
  have hnone (d' : Dispatch) (hd' : (run.session.exchanged d outcome).2.active = some d') :
      run.session.active = some d' := absurd (hidle.symm.trans hd') (Option.some_ne_none _).symm
  cases hpoisoned : (run.session.exchanged d outcome).2.poisoned with
  -- the exchange has closed the session
  | true => exact h.closing hentry hpoisoned hintent hnone
  -- the status was accepted, and the session goes on
  | false =>
    obtain ⟨fallback, hmem⟩ := h.activeSent d hactive
    have hchart := (h.approved d fallback hmem).endpoint
    obtain ⟨hunpoisoned, status, t, heq, hlimit, hredirect, hsettles, hs⟩ :=
      CoordinatedSession.exchanged_open hreturned hchart hpoisoned
    have hopen := h.open_ hunpoisoned
    refine h.extend hentry ?_ ?_ hintent hnone ?_
    · intro hcloses
      exact CoordinatedSession.exchanged_closes hreturned hcloses
    · intro hwas
      exact absurd (hunpoisoned.symm.trans hwas) Bool.false_ne_true
    · intro _
      rw [hs, heq]
      exact hopen.settle hactive hchart hredirect hsettles

/-- A check of the envelope. -/
theorem SessionInvariant.assertEnvelope {lib : SessionLibrary} {run : SessionRun}
    (h : SessionInvariant lib run) (check : CoordinatedSession.EnvelopeCheck) :
    SessionInvariant lib ⟨(run.session.assertActiveEnvelope lib check).2, run.log⟩ := by
  obtain ⟨consumed, hs | hs⟩ :=
    CoordinatedSession.assertActiveEnvelope_frame lib check run.session
  · rw [hs]
    refine ⟨h.approved, h.activeSent, h.firstOnce, h.fallbackOnce, h.fallbacks, h.closed,
      h.poisoned, ?_⟩
    intro hopen
    obtain ⟨hstrategy, hactive, hactivePending, hsent, hused, hpending, hhistory⟩ := h.open_ hopen
    exact ⟨hstrategy, hactive, hactivePending, hsent, hused, hpending, hhistory⟩
  · rw [hs]
    exact ⟨h.approved, h.activeSent, h.firstOnce, h.fallbackOnce, h.fallbacks, h.closed,
      fun _ _ _ => rfl, nofun⟩

/-- Every step keeps the invariant. -/
theorem SessionInvariant.next {lib : SessionLibrary} (step : YahooStep) (run : SessionRun)
    (hfaithful : Faithful lib step run) (h : SessionInvariant lib run) :
    SessionInvariant lib (SessionRun.next lib step run) := by
  cases step with
  | request call =>
    rw [SessionRun.next]
    split
    · rename_i hrequest
      obtain ⟨hpoisoned, hintent, hactive⟩ :=
        CoordinatedSession.request_error hfaithful.1 hfaithful.2.1 hrequest
      exact h.closing nofun hpoisoned hintent fun d hd => hactive ▸ hd
    · rename_i hrequest
      exact h.dispatch hfaithful hrequest
  | assertEnvelope check => exact h.assertEnvelope check
  | exchangeEnds outcome =>
    rw [SessionRun.next]
    split
    · exact h
    · rename_i d hactive
      exact h.exchangeEnds hfaithful hactive
  | finalize outcome port =>
    rw [SessionRun.next]
    rcases CoordinatedSession.finalize_cases outcome port run.session with ⟨code, heq⟩ | ⟨heq, -⟩
    · rw [heq]
      exact h
    · rw [heq]
      exact h.closing nofun rfl rfl fun _ hd => hd

theorem SessionInvariant.initial (lib : SessionLibrary) (expectedSymbol : String)
    (intent : Option DailyIntent) :
    SessionInvariant lib (SessionRun.initial expectedSymbol intent) where
  approved := nofun
  activeSent := nofun
  firstOnce := oncePer_nil
  fallbackOnce := oncePer_nil
  fallbacks := supported_nil
  closed := List.Pairwise.nil
  poisoned := nofun
  open_ _ := ⟨rfl, nofun, nofun, nofun, nofun, nofun, nofun⟩

/-- The invariant gives the law. -/
theorem SessionInvariant.law {lib : SessionLibrary} {run : SessionRun}
    (h : SessionInvariant lib run) : SessionLaw run where
  charts := by
    have hfirst := kinds_length_le h.firstOnce
    have hfallback := units_length_le h.fallbackOnce
    exact (chart_length_le run.log).trans (by omega)
  firstOnce := h.firstOnce
  fallbackOnce := h.fallbackOnce
  fallbacks := h.fallbacks
  closed := h.closed
  complete := by
    intro hcomplete
    obtain ⟨hsent, hpending, hunpoisoned⟩ := of_decide_eq_true hcomplete
    refine ⟨hpending, ?_⟩
    rcases (h.open_ hunpoisoned).history hsent with ⟨target, htarget, -⟩ | hanswered
    · exact absurd (hpending.symm.trans htarget) nofun
    · exact hanswered
  finalized := by
    intro port s hfinalize
    rcases CoordinatedSession.finalize_cases .succeeded port run.session with
      ⟨code, heq⟩ | ⟨-, hcomplete⟩
    · cases heq.symm.trans hfinalize
    · exact hcomplete rfl

/-- In every run whose steps meet the condition, the session obeys the law. -/
theorem session_obeys {lib : SessionLibrary} {expectedSymbol : String}
    {intent : Option DailyIntent} {run : SessionRun}
    (hrun : Reaches (SessionRun.next lib) (Faithful lib)
      (SessionRun.initial expectedSymbol intent) run) :
    SessionLaw run :=
  (Reaches.invariant (SessionInvariant lib) SessionInvariant.next
    (SessionInvariant.initial lib expectedSymbol intent) hrun).law

/-! ## Sessions for one symbol -/

/-- The URLs of the sample, taken apart. -/
def sampleSplit (hostname path : String) : SplitUrl :=
  ⟨"https", hostname, path, "", "", some hostname, none, none, none⟩

/-- The language on what the sample sessions use of it. -/
def sessionLibrary : SessionLibrary where
  lower := id
  urlsplit url :=
    if url = "https://query2.finance.yahoo.com/v8/finance/chart/7203.T" then
      some (sampleSplit "query2.finance.yahoo.com" "/v8/finance/chart/7203.T")
    else if url = "https://query1.finance.yahoo.com/v1/test/getcrumb" then
      some (sampleSplit "query1.finance.yahoo.com" "/v1/test/getcrumb")
    else if url = "https://query2.finance.yahoo.com/v1/test/getcrumb" then
      some (sampleSplit "query2.finance.yahoo.com" "/v1/test/getcrumb")
    else none
  float _ := none
  parsedate _ := none
  totalSeconds := .ofNat
  upper := id
  tokyoMidnight day := if day = "2026-06-01" then 1780239600 else 1781103600

def chartCall (params : Params) : YahooStep :=
  .request ⟨"GET", "https://query2.finance.yahoo.com/v8/finance/chart/7203.T", ["params"], params,
    true, true, 0⟩

def crumbCall (host : String) : YahooStep :=
  .request ⟨"GET", "https://" ++ host ++ ".finance.yahoo.com/v1/test/getcrumb", [], .absent, true,
    true, 0⟩

/-- The exchange ends with a receipt of this status. -/
def answer (status : Int) : YahooStep :=
  .exchangeEnds (.returned (some ⟨some status, true, false, some status, true, true, true, true,
    true⟩))

/-- The parameters of ten days, with a crumb. -/
def periodParams (crumb : String) : Params :=
  .dict true [(.text "period1", .int 1780239600), (.text "period2", .int 1781103600),
    (.text "interval", .text "1d"), (.text "includePrePost", .bool false),
    (.text "events", .text "div,splits,capitalGains"), (.text "crumb", .text crumb)]

/-- A chart request fails and is repeated with the other crumb. -/
def fallbackSteps : List YahooStep :=
  [crumbCall "query1", answer 200, chartCall (periodParams "first"), answer 404,
    crumbCall "query2", answer 200, chartCall (periodParams "second"), answer 200,
    .finalize .succeeded .returns]

/-- A session for ten days that falls back once and succeeds. -/
def fallbackRun : SessionRun :=
  runAll (SessionRun.next sessionLibrary) fallbackSteps
    (SessionRun.initial "7203.T" (some ⟨"7203.T", "2026-06-01", "2026-06-11"⟩))

theorem session_obeys_fallback : SessionLaw fallbackRun ∧ fallbackRun.session.finalized = true ∧
    (fallbackRun.log.filterMap (·.fallback?)).length = 1 := by
  refine ⟨session_obeys (Reaches.runAll ?_), by decide +kernel, by decide +kernel⟩
  exact ⟨⟨rfl, rfl, nofun⟩, nofun, ⟨rfl, rfl, nofun⟩, nofun, ⟨rfl, rfl, nofun⟩, nofun,
    ⟨rfl, rfl, nofun⟩, nofun, trivial, trivial⟩

/-- Two interrupted chart requests of one kind. -/
def interruptedRun : SessionRun :=
  runAll (SessionRun.next sessionLibrary)
    [chartCall .absent, .exchangeEnds .interrupted, chartCall .absent]
    (SessionRun.initial "7203.T" none)

/-- The query of a chart request as a text. -/
def queryParams (stop : String) : Params := .other (.text ("period1=1&period2=" ++ stop))

/-- A fallback to another period, in parameters that are texts. -/
def confusedRun : SessionRun :=
  runAll (SessionRun.next sessionLibrary)
    [chartCall (queryParams "2"), answer 404, crumbCall "query2", answer 200,
      chartCall (queryParams "3")]
    (SessionRun.initial "7203.T" none)

def chartDispatch (params : Params) : Dispatch :=
  ⟨⟨"GET", "query2.finance.yahoo.com", "chart", "chart"⟩,
    "https://query2.finance.yahoo.com/v8/finance/chart/7203.T", ["params"], params, some .history⟩

def crumbDispatch : Dispatch :=
  ⟨⟨"GET", "query2.finance.yahoo.com", "crumb", "crumb_csrf"⟩,
    "https://query2.finance.yahoo.com/v1/test/getcrumb", [], .absent, none⟩

theorem interruptedRun_log : interruptedRun.log =
    [.dispatched (chartDispatch .absent) false, .interrupted (chartDispatch .absent),
      .dispatched (chartDispatch .absent) false] := by
  decide +kernel

theorem confusedRun_log : confusedRun.log =
    [.dispatched (chartDispatch (queryParams "2")) false,
      .answered (chartDispatch (queryParams "2")) 404,
      .dispatched crumbDispatch false, .answered crumbDispatch 200] ++
      [.dispatched (chartDispatch (queryParams "3")) true] := by
  decide +kernel

/-- After an interrupted exchange the same chart is sent again, and a fallback to another period
is sent. -/
theorem session_disobeys :
    (Reaches (SessionRun.next sessionLibrary) (fun _ _ => True) (SessionRun.initial "7203.T" none)
      interruptedRun ∧ ¬ SessionLaw interruptedRun) ∧
    Reaches (SessionRun.next sessionLibrary) (fun _ _ => True) (SessionRun.initial "7203.T" none)
      confusedRun ∧ ¬ SessionLaw confusedRun := by
  refine ⟨⟨Reaches.runAll ⟨trivial, trivial, trivial, trivial⟩, ?_⟩,
    Reaches.runAll ⟨trivial, trivial, trivial, trivial, trivial, trivial⟩, ?_⟩
  · -- the interrupted exchange closed the session, and the chart was sent again
    intro h
    have hclosed := h.closed
    rw [interruptedRun_log] at hclosed
    obtain ⟨-, hafter, -⟩ := List.pairwise_cons.mp hclosed |>.imp_right List.pairwise_cons.mp
    exact hafter _ (List.mem_singleton_self _) trivial trivial
  · -- the fallback has other parameters than the chart that failed
    intro h
    obtain ⟨before, d, status, ⟨fallback, after, hlog, hkind, -⟩, -, -, -, -, hsame, -⟩ :=
      h.fallbacks _ _ [] confusedRun_log (chartDispatch (queryParams "3")) rfl
    have hmem : SessionEntry.dispatched d fallback ∈
        [.dispatched (chartDispatch (queryParams "2")) false,
          .answered (chartDispatch (queryParams "2")) 404,
          .dispatched crumbDispatch false, .answered crumbDispatch 200] := by
      rw [hlog]
      exact List.mem_append_right _ List.mem_cons_self
    have hd : d = chartDispatch (queryParams "2") := by
      simp only [List.mem_cons, List.not_mem_nil, or_false, SessionEntry.dispatched.injEq,
        reduceCtorEq, false_or] at hmem
      rcases hmem with ⟨hd, -⟩ | ⟨hd, -⟩
      · exact hd
      · rw [hd] at hkind
        cases hkind
    rw [hd] at hsame
    revert hsame
    decide +kernel

end StockResearch.Sources
