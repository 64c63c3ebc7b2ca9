import StockResearch.Sources.BojSeries

/-!
# Exact series of exchange rates

What the adapter of the BOJ raises, and what a series that it returns says about the text it was
read from.

- `Sanitizes`: the checks whose exceptions the adapter replaces by its own.
- `Writes`, `Answers`: the dates, values and months that a text writes down.
- `boj_series_exact`: the exception that gets through, and the series of a text.
-/

namespace StockResearch.Sources

open Requests
open Contracts (PyStr)
open Contracts.PyStr (ofString)

section

variable {sha256 : List UInt8 → String}

/-! ## What is raised -/

/-- Some number does not fit, and nothing before it is refused. -/
def Overflows (lib : BojLibrary) (calls : List JsonCall) : Prop :=
  ∃ before number after, calls = before ++ .float number :: after ∧ lib.holds number = false ∧
    ∀ call ∈ before, bojHook lib call = .ok ()

/-- Whatever is raised is sanitized to the error of the adapter. -/
def Sanitizes {α : Type} (x : Except BojError α) : Prop :=
  ∀ e, x = .error e → ∃ text, e.sanitized = .parseError text

theorem sanitizes_invalidModel {α : Type} :
    Sanitizes (.error invalidModel : Except BojError α) := by
  intro e h
  cases h
  exact ⟨_, rfl⟩

theorem sanitizes_pure {α : Type} {a : α} : Sanitizes (pure a : Except BojError α) := by
  intro e h
  cases h

theorem sanitizes_fetch {α : Type} {o : Option α} : Sanitizes (fetch o invalidModel) := by
  intro e h
  obtain ⟨-, rfl⟩ := fetch_eq_error.mp h
  exact ⟨_, rfl⟩

theorem sanitizes_require {p : Prop} [Decidable p] : Sanitizes (require p invalidModel) := by
  intro e h
  obtain ⟨-, rfl⟩ := require_eq_error.mp h
  exact ⟨_, rfl⟩

theorem Sanitizes.bind {α β : Type} {x : Except BojError α} {f : α → Except BojError β}
    (hx : Sanitizes x) (hf : ∀ a, x = .ok a → Sanitizes (f a)) : Sanitizes (x >>= f) := by
  intro e h
  obtain h | ⟨a, ha, h⟩ := bind_eq_error.mp h
  · exact hx e h
  · exact hf a ha e h

theorem sanitizes_mapM {α β : Type} {f : α → Except BojError β} {xs : List α}
    (hf : ∀ x, Sanitizes (f x)) : Sanitizes (xs.mapM f) := by
  intro e h
  obtain ⟨_, x, _, -, -, hx⟩ := mapM_eq_error.mp h
  exact hf x e hx

theorem sanitizes_field (entries : List (PyStr × JsonTree)) (name : String) :
    Sanitizes (fieldOf entries name) := sanitizes_fetch

theorem sanitizes_strictDict (names : List String) (tree : JsonTree) :
    Sanitizes (strictDict names tree) := by
  cases tree with
  | dict entries =>
    exact sanitizes_require.bind fun _ _ => sanitizes_require.bind fun _ _ => sanitizes_pure
  | _ => exact sanitizes_invalidModel

theorem sanitizes_strictText (tree : JsonTree) : Sanitizes (strictText tree) := by
  cases tree with
  | str value => exact sanitizes_pure
  | _ => exact sanitizes_invalidModel

theorem sanitizes_literalText (text : String) (tree : JsonTree) :
    Sanitizes (literalText text tree) := by
  cases tree with
  | str value => exact sanitizes_require
  | _ => exact sanitizes_invalidModel

theorem sanitizes_strictInt (tree : JsonTree) : Sanitizes (strictInt tree) := by
  cases tree with
  | int value => exact sanitizes_pure
  | _ => exact sanitizes_invalidModel

theorem sanitizes_items (tree : JsonTree) : Sanitizes (items tree) := by
  cases tree with
  | list value => exact sanitizes_pure
  | _ => exact sanitizes_invalidModel

theorem RawParameters.sanitizes (tree : JsonTree) : Sanitizes (RawParameters.validate tree) :=
  (sanitizes_strictDict _ _).bind fun entries _ =>
    (sanitizes_field entries _).bind fun _ _ => (sanitizes_literalText _ _).bind fun _ _ =>
    (sanitizes_field entries _).bind fun _ _ => (sanitizes_literalText _ _).bind fun _ _ =>
    (sanitizes_field entries _).bind fun _ _ => (sanitizes_literalText _ _).bind fun _ _ =>
    (sanitizes_field entries _).bind fun _ _ => (sanitizes_strictText _).bind fun _ _ =>
    (sanitizes_field entries _).bind fun _ _ => (sanitizes_strictText _).bind fun _ _ =>
    (sanitizes_field entries _).bind fun _ _ => (sanitizes_strictText _).bind fun _ _ =>
    sanitizes_pure

theorem RawValue.sanitizes (tree : JsonTree) : Sanitizes (RawValue.validate tree) := by
  cases tree with
  | null => exact sanitizes_pure
  | int value => exact sanitizes_pure
  | number value => exact sanitizes_pure
  | _ => exact sanitizes_invalidModel

theorem RawValues.sanitizes (tree : JsonTree) : Sanitizes (RawValues.validate tree) := by
  refine (sanitizes_strictDict _ _).bind fun entries _ => ?_
  refine (sanitizes_field entries _).bind fun _ _ => (sanitizes_items _).bind fun _ _ => ?_
  refine (sanitizes_mapM sanitizes_strictInt).bind fun dates _ => ?_
  refine (sanitizes_field entries _).bind fun _ _ => (sanitizes_items _).bind fun _ _ => ?_
  refine (sanitizes_mapM RawValue.sanitizes).bind fun values _ => ?_
  by_cases aligned : dates.length = values.length
  · rw [dif_pos aligned]
    exact sanitizes_pure
  · rw [dif_neg aligned]
    exact sanitizes_invalidModel

theorem RawSeries.sanitizes (tree : JsonTree) : Sanitizes (RawSeries.validate tree) :=
  (sanitizes_strictDict _ _).bind fun entries _ =>
    (sanitizes_field entries _).bind fun _ _ => (sanitizes_literalText _ _).bind fun _ _ =>
    (sanitizes_field entries _).bind fun _ _ => (sanitizes_strictText _).bind fun _ _ =>
    (sanitizes_field entries _).bind fun _ _ => (sanitizes_strictText _).bind fun _ _ =>
    (sanitizes_field entries _).bind fun _ _ => (sanitizes_literalText _ _).bind fun _ _ =>
    (sanitizes_field entries _).bind fun _ _ => (sanitizes_strictText _).bind fun _ _ =>
    (sanitizes_field entries _).bind fun _ _ => (sanitizes_strictInt _).bind fun _ _ =>
    (sanitizes_field entries _).bind fun _ _ => (RawValues.sanitizes _).bind fun _ _ =>
    sanitizes_pure

theorem sanitizes_requireOk (tree : JsonTree) : Sanitizes (requireOk tree) := by
  cases tree with
  | int value => exact sanitizes_require
  | _ => exact sanitizes_invalidModel

theorem sanitizes_requireNull (tree : JsonTree) : Sanitizes (requireNull tree) := by
  cases tree with
  | null => exact sanitizes_pure
  | _ => exact sanitizes_invalidModel

theorem sanitizes_single (trees : List JsonTree) : Sanitizes (single trees) := by
  unfold single
  split
  · exact sanitizes_pure
  · exact sanitizes_invalidModel

theorem RawResponse.sanitizes (tree : JsonTree) : Sanitizes (RawResponse.validate tree) :=
  (sanitizes_strictDict _ _).bind fun entries _ =>
    (sanitizes_field entries _).bind fun _ _ => (sanitizes_requireOk _).bind fun _ _ =>
    (sanitizes_field entries _).bind fun _ _ => (sanitizes_strictText _).bind fun _ _ =>
    (sanitizes_field entries _).bind fun _ _ => (sanitizes_strictText _).bind fun _ _ =>
    (sanitizes_field entries _).bind fun _ _ => (sanitizes_strictText _).bind fun _ _ =>
    (sanitizes_field entries _).bind fun _ _ => (RawParameters.sanitizes _).bind fun _ _ =>
    (sanitizes_field entries _).bind fun _ _ => (sanitizes_requireNull _).bind fun _ _ =>
    (sanitizes_field entries _).bind fun _ _ => (sanitizes_items _).bind fun _ _ =>
    (sanitizes_single _).bind fun _ _ => (RawSeries.sanitizes _).bind fun _ _ => sanitizes_pure

theorem parseDay_sanitizes (value : Int) : Sanitizes (parseDay value) :=
  sanitizes_require.bind fun _ _ => sanitizes_fetch.bind fun _ _ =>
    sanitizes_fetch.bind fun _ _ => sanitizes_fetch.bind fun _ _ => sanitizes_fetch

theorem BojFxDailySeries.check_sanitizes (lib : BojLibrary) (series : BojFxDailySeries) :
    Sanitizes (series.check lib) :=
  sanitizes_require.bind fun _ _ => sanitizes_require.bind fun _ _ =>
    sanitizes_require.bind fun _ _ => sanitizes_require.bind fun _ _ =>
    sanitizes_require.bind fun _ _ => sanitizes_require

theorem seriesOf_sanitizes (lib : BojLibrary) (raw : RawResponse) :
    Sanitizes (seriesOf lib raw) := by
  refine (sanitizes_mapM fun pair => ?_).bind fun observations _ => ?_
  · exact (parseDay_sanitizes _).bind fun _ _ => sanitizes_require.bind fun _ _ => sanitizes_pure
  · exact (parseDay_sanitizes _).bind fun _ _ =>
      (BojFxDailySeries.check_sanitizes lib _).bind fun _ _ => sanitizes_pure

/-- The hooks let one exception through, when a decimal does not fit. -/
theorem hooks_raise_iff {lib : BojLibrary} {calls : List JsonCall} {e : BojError} :
    calls.forM (bojHook lib) = .error e ∧ (∀ text, e.sanitized ≠ .parseError text) ↔
      e = .other .invalidOperation ∧ Overflows lib calls := by
  rw [forM_eq_error]
  constructor
  · rintro ⟨⟨before, call, after, hcalls, hbefore, hcall⟩, hraw⟩
    cases call with
    | float number =>
      obtain ⟨hholds, rfl⟩ := require_eq_error.mp hcall
      exact ⟨rfl, before, number, after, hcalls, Bool.not_eq_true _ ▸ hholds, hbefore⟩
    | constant =>
      cases hcall
      exact absurd rfl (hraw _)
    | pairs keys =>
      obtain ⟨-, rfl⟩ := require_eq_error.mp hcall
      exact absurd rfl (hraw _)
  · rintro ⟨rfl, before, number, after, hcalls, hholds, hbefore⟩
    refine ⟨⟨before, .float number, after, hcalls, hbefore, ?_⟩, fun _ h => BojError.noConfusion h⟩
    exact require_eq_error.mpr ⟨by simp [hholds], rfl⟩

/-- What leaves the body of `parse` unsanitized. -/
theorem parseBody_raises_iff {lib : BojLibrary} {body : List UInt8} {e : BojError} :
    parseBody lib body = .error e ∧ (∀ text, e.sanitized ≠ .parseError text) ↔
      e = .other .invalidOperation ∧ ∃ text, lib.decode body = some text ∧
        Overflows lib (lib.jsonLoads text).calls := by
  constructor
  · rintro ⟨h, hraw⟩
    obtain h | ⟨text, htext, h⟩ := bind_eq_error.mp h
    · obtain ⟨_, hsan⟩ := sanitizes_fetch e h
      exact absurd hsan (hraw _)
    · rw [fetch_eq_ok] at htext
      obtain h | ⟨tree, -, h⟩ := bind_eq_error.mp h
      · obtain h | ⟨_, -, h⟩ := bind_eq_error.mp h
        · obtain ⟨rfl, hover⟩ := hooks_raise_iff.mp ⟨h, hraw⟩
          exact ⟨rfl, text, htext, hover⟩
        · split at h
          · cases h
          · cases h
            exact absurd rfl (hraw _)
      · obtain ⟨_, hsan⟩ := ((RawResponse.sanitizes tree).bind
          fun raw _ => seriesOf_sanitizes lib raw) e h
        exact absurd hsan (hraw _)
  · rintro ⟨rfl, text, htext, hover⟩
    obtain ⟨h, hraw⟩ := hooks_raise_iff.mpr ⟨rfl, hover⟩
    refine ⟨bind_eq_error.mpr (.inr ⟨text, fetch_eq_ok.mpr htext, ?_⟩), hraw⟩
    exact bind_eq_error.mpr (.inl (bind_eq_error.mpr (.inl h)))

/-- `parse` raises its own error, but for a number that does not fit. -/
theorem parseBoj_error {lib : BojLibrary} {response : BoundedSourceResponse sha256} {e : BojError}
    (h : parseBoj lib response = .error e) :
    (∃ text, e = .parseError text) ∨ e = .other .invalidOperation := by
  obtain h | ⟨_, -, h⟩ := bind_eq_error.mp h
  · obtain ⟨-, rfl⟩ := require_eq_error.mp h
    exact .inl ⟨_, rfl⟩
  · obtain ⟨raised, hraised, rfl⟩ := mapError_eq_error.mp h
    by_cases hsan : ∃ text, raised.sanitized = .parseError text
    · exact .inl hsan
    · obtain ⟨rfl, -⟩ := parseBody_raises_iff.mp ⟨hraised, fun text htext => hsan ⟨text, htext⟩⟩
      exact .inr rfl

theorem parseBoj_raises_iff {lib : BojLibrary} {response : BoundedSourceResponse sha256}
    {e : PyException} : parseBoj lib response = .error (.other e) ↔ e = .invalidOperation ∧
      response.mediaType = "application/json" ∧ lib.lower response.encoding = "utf-8" ∧
      ∃ text, lib.decode response.body = some text ∧ Overflows lib (lib.jsonLoads text).calls := by
  constructor
  · intro h
    obtain ⟨text, hparse⟩ | hover := parseBoj_error h
    · cases hparse
    · cases hover
      obtain h | ⟨_, hmedia, h⟩ := bind_eq_error.mp h
      · cases (require_eq_error.mp h).2
      · obtain ⟨raised, hraised, hsan⟩ := mapError_eq_error.mp h
        have hraw : ∀ text, raised.sanitized ≠ .parseError text := by
          intro text htext
          rw [htext] at hsan
          cases hsan
        obtain ⟨-, hover⟩ := parseBody_raises_iff.mp ⟨hraised, hraw⟩
        exact ⟨rfl, (require_eq_ok.mp hmedia).1, (require_eq_ok.mp hmedia).2, hover⟩
  · rintro ⟨rfl, hmedia, hencoding, hover⟩
    have hraised := (parseBody_raises_iff.mpr ⟨rfl, hover⟩).1
    refine bind_eq_error.mpr (.inr ⟨(), require_eq_ok.mpr ⟨hmedia, hencoding⟩, ?_⟩)
    exact mapError_eq_error.mpr ⟨_, hraised, rfl⟩

/-! ## What is read -/

theorem strictInt_eq_ok {tree : JsonTree} {n : Int} : strictInt tree = .ok n ↔ tree = .int n := by
  cases tree with
  | int value => simp [strictInt, pure, Except.pure]
  | _ => simp [strictInt]

/-- The value as it is written. -/
def RawValue.tree : RawValue → JsonTree
  | null => .null
  | int value => .int value
  | decimal value => .number value

theorem RawValue.validate_eq_ok {tree : JsonTree} {value : RawValue}
    (h : RawValue.validate tree = .ok value) : tree = value.tree := by
  cases tree with
  | null | int _ | number _ =>
    cases h
    rfl
  | _ => cases h

theorem items_eq_ok {tree : JsonTree} {trees : List JsonTree} (h : items tree = .ok trees) :
    tree = .list trees := by
  cases tree with
  | list value =>
    cases h
    rfl
  | _ => cases h

theorem single_eq_ok {trees : List JsonTree} {tree : JsonTree} (h : single trees = .ok tree) :
    trees = [tree] := by
  unfold single at h
  split at h
  · cases h
    rfl
  · cases h

theorem strictDict_eq_ok {names : List String} {tree : JsonTree}
    {entries : List (PyStr × JsonTree)} (h : strictDict names tree = .ok entries) :
    tree = .dict entries ∧ ∀ name ∈ names, (entry entries name).isSome = true := by
  cases tree with
  | dict value =>
    obtain ⟨_, -, h⟩ := bind_eq_ok.mp h
    obtain ⟨_, hall, h⟩ := bind_eq_ok.mp h
    cases h
    exact ⟨rfl, require_eq_ok.mp hall⟩
  | _ => cases h

/-- The values of a list, collected one by one, are those that are written. -/
theorem eq_map_of_mapM {β : Type} {f : JsonTree → Except BojError β} {write : β → JsonTree}
    (hf : ∀ tree value, f tree = .ok value → tree = write value) {trees : List JsonTree}
    {values : List β} (h : trees.mapM f = .ok values) : trees = values.map write := by
  induction mapM_eq_ok.mp h with
  | nil => rfl
  | cons hhead _ ih =>
    rw [List.map_cons, ← hf _ _ hhead, ← ih (mapM_eq_ok.mpr ‹_›)]

/-- The dates and the values that a text writes down. -/
def Writes (tree : JsonTree) (dates : List Int) (values : List RawValue) : Prop :=
  ∃ top series raw, tree = .dict top ∧ entry top "RESULTSET" = some (.list [.dict series]) ∧
    entry series "VALUES" = some (.dict raw) ∧
    entry raw "SURVEY_DATES" = some (.list (dates.map .int)) ∧
    entry raw "VALUES" = some (.list (values.map RawValue.tree))

/-- The months of which a text says that it was asked. -/
def Answers (tree : JsonTree) (start stop : String) : Prop :=
  ∃ top answered, tree = .dict top ∧ entry top "PARAMETER" = some (.dict answered) ∧
    entry answered "STARTDATE" = some (.str (ofString start)) ∧
    entry answered "ENDDATE" = some (.str (ofString stop))

theorem RawValues.validate_eq_ok {tree : JsonTree} {values : RawValues}
    (h : RawValues.validate tree = .ok values) : ∃ raw, tree = .dict raw ∧
      entry raw "SURVEY_DATES" = some (.list (values.surveyDates.map .int)) ∧
      entry raw "VALUES" = some (.list (values.values.map RawValue.tree)) := by
  obtain ⟨raw, hraw, h⟩ := bind_eq_ok.mp h
  obtain ⟨datesTree, hdatesTree, h⟩ := bind_eq_ok.mp h
  obtain ⟨dateTrees, hdateTrees, h⟩ := bind_eq_ok.mp h
  obtain ⟨dates, hdates, h⟩ := bind_eq_ok.mp h
  obtain ⟨valuesTree, hvaluesTree, h⟩ := bind_eq_ok.mp h
  obtain ⟨valueTrees, hvalueTrees, h⟩ := bind_eq_ok.mp h
  obtain ⟨rawValues, hrawValues, h⟩ := bind_eq_ok.mp h
  split at h
  · cases h
    refine ⟨raw, (strictDict_eq_ok hraw).1, ?_, ?_⟩
    · rw [fetch_eq_ok.mp hdatesTree, items_eq_ok hdateTrees,
        eq_map_of_mapM (fun _ _ => strictInt_eq_ok.mp) hdates]
    · rw [fetch_eq_ok.mp hvaluesTree, items_eq_ok hvalueTrees,
        eq_map_of_mapM (fun _ _ => RawValue.validate_eq_ok) hrawValues]
  · cases h

theorem RawSeries.validate_eq_ok {tree : JsonTree} {series : RawSeries}
    (h : RawSeries.validate tree = .ok series) : ∃ entries valuesTree, tree = .dict entries ∧
      entry entries "VALUES" = some valuesTree ∧
      RawValues.validate valuesTree = .ok series.values := by
  obtain ⟨entries, hentries, h⟩ := bind_eq_ok.mp h
  obtain ⟨_, -, h⟩ := bind_eq_ok.mp h
  obtain ⟨_, -, h⟩ := bind_eq_ok.mp h
  obtain ⟨_, -, h⟩ := bind_eq_ok.mp h
  obtain ⟨_, -, h⟩ := bind_eq_ok.mp h
  obtain ⟨_, -, h⟩ := bind_eq_ok.mp h
  obtain ⟨_, -, h⟩ := bind_eq_ok.mp h
  obtain ⟨_, -, h⟩ := bind_eq_ok.mp h
  obtain ⟨_, -, h⟩ := bind_eq_ok.mp h
  obtain ⟨_, -, h⟩ := bind_eq_ok.mp h
  obtain ⟨_, -, h⟩ := bind_eq_ok.mp h
  obtain ⟨_, -, h⟩ := bind_eq_ok.mp h
  obtain ⟨_, -, h⟩ := bind_eq_ok.mp h
  obtain ⟨valuesTree, hvaluesTree, h⟩ := bind_eq_ok.mp h
  obtain ⟨values, hvalues, h⟩ := bind_eq_ok.mp h
  cases h
  exact ⟨entries, valuesTree, (strictDict_eq_ok hentries).1, fetch_eq_ok.mp hvaluesTree, hvalues⟩

/-- A validated response has its parameters and its one series where the adapter looks. -/
theorem RawResponse.validate_eq_ok {tree : JsonTree} {raw : RawResponse}
    (h : RawResponse.validate tree = .ok raw) : ∃ top answered, tree = .dict top ∧
      entry top "PARAMETER" = some (.dict answered) ∧
      (∀ name ∈ ["FORMAT", "LANG", "DB", "STARTDATE", "ENDDATE", "STARTPOSITION"],
        (entry answered name).isSome = true) ∧
      Writes tree raw.series.values.surveyDates raw.series.values.values := by
  obtain ⟨top, htop, h⟩ := bind_eq_ok.mp h
  obtain ⟨_, -, h⟩ := bind_eq_ok.mp h
  obtain ⟨_, -, h⟩ := bind_eq_ok.mp h
  obtain ⟨_, -, h⟩ := bind_eq_ok.mp h
  obtain ⟨_, -, h⟩ := bind_eq_ok.mp h
  obtain ⟨_, -, h⟩ := bind_eq_ok.mp h
  obtain ⟨_, -, h⟩ := bind_eq_ok.mp h
  obtain ⟨_, -, h⟩ := bind_eq_ok.mp h
  obtain ⟨_, -, h⟩ := bind_eq_ok.mp h
  -- the fields are validated in order, and the parameters and the series are kept
  obtain ⟨parameterTree, hparameterTree, h⟩ := bind_eq_ok.mp h
  obtain ⟨parameter, hparameter, h⟩ := bind_eq_ok.mp h
  obtain ⟨_, -, h⟩ := bind_eq_ok.mp h
  obtain ⟨_, -, h⟩ := bind_eq_ok.mp h
  obtain ⟨setTree, hsetTree, h⟩ := bind_eq_ok.mp h
  obtain ⟨set, hset, h⟩ := bind_eq_ok.mp h
  obtain ⟨seriesTree, hseriesTree, h⟩ := bind_eq_ok.mp h
  obtain ⟨series, hseries, h⟩ := bind_eq_ok.mp h
  cases h
  obtain ⟨answered, hanswered, -⟩ := bind_eq_ok.mp hparameter
  obtain ⟨rfl, hnames⟩ := strictDict_eq_ok hanswered
  obtain ⟨rfl, -⟩ := strictDict_eq_ok htop
  refine ⟨top, answered, rfl, fetch_eq_ok.mp hparameterTree, hnames, ?_⟩
  obtain ⟨entries, valuesTree, rfl, hvalues, hvalid⟩ := RawSeries.validate_eq_ok hseries
  obtain ⟨written, rfl, hdates, hwritten⟩ := RawValues.validate_eq_ok hvalid
  refine ⟨top, entries, written, rfl, ?_, hvalues, hdates, hwritten⟩
  rw [fetch_eq_ok.mp hsetTree, items_eq_ok hset, single_eq_ok hseriesTree]

/-! ## Keys that do not repeat -/

/-- Without repeated keys it does not matter which of them counts. -/
theorem entry_reverse {entries : List (PyStr × JsonTree)} (h : (entries.map Prod.fst).Nodup)
    (name : String) : entry entries.reverse name = entry entries name := by
  induction entries with
  | nil => rfl
  | cons first entries ih =>
    obtain ⟨hfirst, hrest⟩ := List.nodup_cons.mp h
    simp only [entry, List.reverse_cons, List.find?_append, List.find?_cons] at ih ⊢
    by_cases heq : first.1 = ofString name
    · have hnone :
          entries.reverse.find? (fun entry => decide (entry.1 = ofString name)) = none := by
        simp only [List.find?_eq_none, List.mem_reverse, decide_eq_true_eq]
        intro entry hentry hname
        exact hfirst (List.mem_map.mpr ⟨entry, hentry, hname.trans heq.symm⟩)
      simp [hnone, heq]
    · simpa [heq] using ih hrest

/-- A nested value is read, with its calls, before the dictionary it is in. -/
theorem mem_entryCalls {entries : List (PyStr × JsonTree)} {key : PyStr} {value : JsonTree}
    {call : JsonCall} (hmem : (key, value) ∈ entries) (hcall : call ∈ value.calls) :
    call ∈ entryCalls entries := by
  induction entries with
  | nil => cases hmem
  | cons first entries ih =>
    rw [entryCalls, List.mem_append]
    obtain heq | hmem := List.mem_cons.mp hmem
    · rw [← heq]
      exact .inl hcall
    · exact .inr (ih hmem)

theorem mem_of_entry {entries : List (PyStr × JsonTree)} {name : String} {value : JsonTree}
    (h : entry entries name = some value) : (ofString name, value) ∈ entries := by
  obtain ⟨found, hfound, rfl⟩ := Option.map_eq_some_iff.mp h
  have hname := List.find?_some hfound
  rw [decide_eq_true_eq] at hname
  rw [← hname]
  exact List.mem_of_find?_eq_some hfound

/-- What the first reading lets through has no key twice. -/
theorem bojLoads_eq_ok {lib : BojLibrary} {text : PyStr} {tree : JsonTree}
    (h : bojLoads lib text = .ok tree) : lib.jsonLoads text = .complete tree ∧
      ∀ keys, .pairs keys ∈ tree.calls → keys.Nodup := by
  obtain ⟨_, hcalls, h⟩ := bind_eq_ok.mp h
  split at h
  · rename_i read hread
    cases h
    refine ⟨hread, fun keys hkeys => ?_⟩
    rw [hread] at hcalls
    exact require_eq_ok.mp (forM_eq_ok.mp hcalls (.pairs keys) hkeys)
  · cases h

/-! ## Days -/

/-- The digits of a day. -/
def Compact (day : Date) : List Char :=
  Lex.decimal 4 day.year ++ (Lex.decimal 2 day.month ++ Lex.decimal 2 day.day)

theorem parseDay_eq_ok {value : Int} {day : Date} (h : parseDay value = .ok day) :
    (toString value).toList = Compact day := by
  obtain ⟨_, hlength, h⟩ := bind_eq_ok.mp h
  rw [require_eq_ok] at hlength
  obtain ⟨year, hyear, h⟩ := bind_eq_ok.mp h
  obtain ⟨month, hmonth, h⟩ := bind_eq_ok.mp h
  obtain ⟨number, hnumber, h⟩ := bind_eq_ok.mp h
  obtain ⟨rfl, rfl, rfl⟩ := Date.ofFields?_fields (fetch_eq_ok.mp h)
  have hyear := (Date.number_eq_some (fetch_eq_ok.mp hyear)).1
  have hmonth := (Date.number_eq_some (fetch_eq_ok.mp hmonth)).1
  have hnumber := (Date.number_eq_some (fetch_eq_ok.mp hnumber)).1
  simp only [List.length_take, List.length_drop, hlength] at hyear hmonth hnumber
  calc (toString value).toList
      = (toString value).toList.take 4 ++ (((toString value).toList.drop 4).take 2 ++
        ((toString value).toList.drop 4).drop 2) := by
        rw [List.take_append_drop, List.take_append_drop]
    _ = Compact day := by
        rw [List.drop_drop, hyear, hmonth, hnumber]
        rfl

/-- A month is up to another. -/
def MonthLe (a b : Date) : Prop := a.year < b.year ∨ a.year = b.year ∧ a.month ≤ b.month

theorem ne_hyphen_of_mem_decimal {width n : Nat} {c : Char} (h : c ∈ Lex.decimal width n) :
    c ≠ '-' := by
  obtain ⟨digit, hdigit, rfl⟩ := Date.exists_digit_of_mem_decimal h
  exact (by decide : ∀ digit < 10, Lex.digit digit ≠ '-') digit hdigit

theorem filter_decimal (width n : Nat) :
    (Lex.decimal width n).filter (· ≠ '-') = Lex.decimal width n := by
  rw [List.filter_eq_self]
  intro c hc
  simpa using ne_hyphen_of_mem_decimal hc

/-- The month of an observed day. -/
theorem observedMonth_isoformat (day : Date) :
    (observedMonth day.isoformat).toList = Lex.decimal 4 day.year ++ Lex.decimal 2 day.month := by
  have hfilter : day.isoformat.toList.filter (· ≠ '-') = Compact day := by
    rw [Date.isoformat, String.toList_ofList]
    simp only [List.filter_append, List.filter_cons, filter_decimal]
    rfl
  rw [observedMonth, String.toList_ofList, hfilter, Compact, ← List.append_assoc]
  exact List.take_left' (by simp)

theorem parseMonth_eq_some {value : String} {first : Date} (h : parseMonth value = some first) :
    value.toList = Lex.decimal 4 first.year ++ Lex.decimal 2 first.month := by
  unfold parseMonth at h
  split at h
  · rename_i hdigits
    obtain ⟨year, hyear, h⟩ := Option.bind_eq_some_iff.mp h
    obtain ⟨month, hmonth, h⟩ := Option.bind_eq_some_iff.mp h
    obtain ⟨rfl, rfl, -⟩ := Date.ofFields?_fields h
    have hyear := (Date.number_eq_some hyear).1
    have hmonth := (Date.number_eq_some hmonth).1
    simp only [List.length_take, List.length_drop, hdigits.1] at hyear hmonth
    calc value.toList = value.toList.take 4 ++ value.toList.drop 4 :=
          (List.take_append_drop 4 value.toList).symm
      _ = Lex.decimal 4 first.year ++ Lex.decimal 2 first.month := by rw [hyear, hmonth]; rfl
  · cases h

/-- Months written as digits sort as months. -/
theorem month_le_iff {a b : Date} {s t : String}
    (hs : s.toList = Lex.decimal 4 a.year ++ Lex.decimal 2 a.month)
    (ht : t.toList = Lex.decimal 4 b.year ++ Lex.decimal 2 b.month) : s ≤ t ↔ MonthLe a b := by
  have ha : a.year < 10 ^ 4 := yearOf_lt a.inRange
  have hb : b.year < 10 ^ 4 := yearOf_lt b.inRange
  rw [← String.not_lt, String.lt_iff_toList_lt, hs, ht,
    Lex.append_lt_append_iff (by simp) (fun x => lt_irrefl x), Lex.decimal_lt_iff hb ha,
    Lex.decimal_lt_iff b.month_lt a.month_lt]
  constructor
  · intro h
    rcases Nat.lt_trichotomy a.year b.year with hlt | heq | hgt
    · exact .inl hlt
    · refine .inr ⟨heq, Nat.not_lt.mp fun hmonth => h (.inr ⟨by rw [heq], hmonth⟩)⟩
    · exact absurd (.inl hgt) h
  · rintro (hlt | ⟨heq, hmonth⟩) (hgt | ⟨hdec, hgt⟩)
    · omega
    · have := Lex.decimal_inj hb ha hdec
      omega
    · omega
    · omega

/-! ## The response to an intent -/

/-- The second reading of a response finds what the first one did. -/
theorem plainLoads_of_validate {lib : BojLibrary} {body : List UInt8} {text : PyStr}
    {tree : JsonTree} {raw : RawResponse} (htext : lib.decode body = some text)
    (htree : bojLoads lib text = .ok tree) (hraw : RawResponse.validate tree = .ok raw) :
    ∃ top answered, tree = .dict top ∧ plainLoads lib body = .ok tree ∧
      entry top "PARAMETER" = some (.dict answered) ∧
      subscript "PARAMETER" tree = .ok (.dict answered) ∧
      (∀ name, subscript name (.dict answered) = fetch (entry answered name) (.other .keyError)) ∧
      ∀ name ∈ ["FORMAT", "LANG", "DB", "STARTDATE", "ENDDATE", "STARTPOSITION"],
        (entry answered name).isSome = true := by
  obtain ⟨hread, hkeys⟩ := bojLoads_eq_ok htree
  obtain ⟨top, answered, rfl, hanswered, hnames, -⟩ := RawResponse.validate_eq_ok hraw
  have hnodup : (top.map Prod.fst).Nodup := hkeys _ (List.mem_append_right _ List.mem_cons_self)
  have hinner : (answered.map Prod.fst).Nodup :=
    hkeys _ (List.mem_append_left _ (mem_entryCalls (mem_of_entry hanswered)
      (List.mem_append_right _ List.mem_cons_self)))
  refine ⟨top, answered, rfl, ?_, hanswered, ?_, fun name => ?_, hnames⟩
  · have hfetch : fetch (lib.decode body) (BojError.other .valueError) = .ok text :=
      fetch_eq_ok.mpr htext
    rw [plainLoads, hfetch, ok_bind, hread]
    rfl
  · rw [subscript, entry_reverse hnodup, fetch_eq_ok]
    exact hanswered
  · rw [subscript, entry_reverse hinner]

/-- Nothing but a mismatch is found in a response that `parse` accepts. -/
theorem checkSemantics_error {lib : BojLibrary} {body : List UInt8}
    {parameters : List SourceParameter} {series : BojFxDailySeries} {e : BojError}
    (hparse : parseBody lib body = .ok series)
    (h : checkSemantics lib body parameters series = .error e) : e = mismatch := by
  obtain ⟨text, htext, hparse⟩ := bind_eq_ok.mp hparse
  obtain ⟨tree, htree, hparse⟩ := bind_eq_ok.mp hparse
  obtain ⟨raw, hraw, -⟩ := bind_eq_ok.mp hparse
  obtain ⟨top, answered, -, hpayload, -, hparameter, hsubscript, hnames⟩ :=
    plainLoads_of_validate (fetch_eq_ok.mp htext) htree hraw
  -- the parameters were validated, so that no subscript misses its key
  have hpresent : ∀ name ∈ ["FORMAT", "LANG", "DB", "STARTDATE", "ENDDATE", "STARTPOSITION"],
      subscript name (.dict answered) ≠ .error e := by
    intro name hname hmissing
    have hsome := hnames name hname
    rw [hsubscript, fetch_eq_error] at hmissing
    rw [hmissing.1] at hsome
    cases hsome
  rw [checkSemantics, hpayload, ok_bind, hparameter, ok_bind] at h
  obtain h | ⟨_, -, h⟩ := bind_eq_error.mp h
  · exact absurd h (hpresent _ (by simp))
  obtain h | ⟨_, -, h⟩ := bind_eq_error.mp h
  · exact (require_eq_error.mp h).2.symm
  obtain h | ⟨_, -, h⟩ := bind_eq_error.mp h
  · exact absurd h (hpresent _ (by simp))
  obtain h | ⟨_, -, h⟩ := bind_eq_error.mp h
  · exact (require_eq_error.mp h).2.symm
  obtain h | ⟨_, -, h⟩ := bind_eq_error.mp h
  · exact absurd h (hpresent _ (by simp))
  obtain h | ⟨_, -, h⟩ := bind_eq_error.mp h
  · exact (require_eq_error.mp h).2.symm
  obtain h | ⟨_, -, h⟩ := bind_eq_error.mp h
  · exact (require_eq_error.mp h).2.symm
  obtain h | ⟨_, -, h⟩ := bind_eq_error.mp h
  · exact (require_eq_error.mp h).2.symm
  · exact (require_eq_error.mp h).2.symm

theorem isText_eq_true {text : String} {tree : JsonTree} :
    isText text tree = true ↔ tree = .str (ofString text) := by
  cases tree with
  | str value => simp [isText]
  | _ => simp [isText]

/-- What a response says when nothing mismatches. -/
theorem checkSemantics_eq_ok {lib : BojLibrary} {body : List UInt8}
    {parameters : List SourceParameter} {series : BojFxDailySeries} {text : PyStr}
    {tree : JsonTree} {raw : RawResponse} (htext : lib.decode body = some text)
    (htree : bojLoads lib text = .ok tree) (hraw : RawResponse.validate tree = .ok raw)
    (h : checkSemantics lib body parameters series = .ok ()) :
    Answers tree (parameterOf parameters "start_date") (parameterOf parameters "end_date") ∧
      ∀ item ∈ series.observations,
        parameterOf parameters "start_date" ≤ observedMonth item.observedOn ∧
          observedMonth item.observedOn ≤ parameterOf parameters "end_date" := by
  obtain ⟨top, answered, rfl, hpayload, hanswered, hparameter, hsubscript, -⟩ :=
    plainLoads_of_validate htext htree hraw
  rw [checkSemantics, hpayload, ok_bind, hparameter, ok_bind] at h
  obtain ⟨start, hstart, h⟩ := bind_eq_ok.mp h
  obtain ⟨_, hstartText, h⟩ := bind_eq_ok.mp h
  obtain ⟨stop, hstop, h⟩ := bind_eq_ok.mp h
  obtain ⟨_, hstopText, h⟩ := bind_eq_ok.mp h
  obtain ⟨_, -, h⟩ := bind_eq_ok.mp h
  obtain ⟨_, -, h⟩ := bind_eq_ok.mp h
  obtain ⟨_, -, h⟩ := bind_eq_ok.mp h
  obtain ⟨_, -, h⟩ := bind_eq_ok.mp h
  refine ⟨⟨top, answered, rfl, hanswered, ?_, ?_⟩, require_eq_ok.mp h⟩
  · rw [← isText_eq_true.mp (require_eq_ok.mp hstartText), ← fetch_eq_ok, ← hsubscript]
    exact hstart
  · rw [← isText_eq_true.mp (require_eq_ok.mp hstopText), ← fetch_eq_ok, ← hsubscript]
    exact hstop

/-- The intent of a request that is one, with the months it asks for. -/
theorem buildIntent_eq_ok {operation : String} {parameters : List SourceParameter}
    {built : CredentialFreeSourceIntent} (h : buildIntent operation parameters = .ok built) :
    ∃ first last, parseMonth (parameterOf parameters "start_date") = some first ∧
      parseMonth (parameterOf parameters "end_date") = some last := by
  obtain ⟨_, -, h⟩ := bind_eq_ok.mp h
  obtain ⟨_, -, h⟩ := bind_eq_ok.mp h
  obtain ⟨first, hfirst, h⟩ := bind_eq_ok.mp h
  obtain ⟨last, hlast, -⟩ := bind_eq_ok.mp h
  exact ⟨first, last, fetch_eq_ok.mp hfirst, fetch_eq_ok.mp hlast⟩

/-- The parameters of an intent are canonical; only what they say can be refused. -/
theorem buildIntent_error {operation : String} {intent : CredentialFreeSourceIntent} {e : BojError}
    (h : buildIntent operation intent.parameters = .error e) : e = .invalidIntent := by
  obtain h | ⟨_, -, h⟩ := bind_eq_error.mp h
  · exact (require_eq_error.mp h).2.symm
  obtain h | ⟨_, -, h⟩ := bind_eq_error.mp h
  · exact (require_eq_error.mp h).2.symm
  obtain h | ⟨_, -, h⟩ := bind_eq_error.mp h
  · exact (fetch_eq_error.mp h).2.symm
  obtain h | ⟨_, -, h⟩ := bind_eq_error.mp h
  · exact (fetch_eq_error.mp h).2.symm
  obtain h | ⟨_, -, h⟩ := bind_eq_error.mp h
  · exact (require_eq_error.mp h).2.symm
  · rw [dif_pos intent.canonical] at h
    cases h

/-- The observations of a series are those of its response, on days that ascend. -/
theorem seriesOf_eq_ok {lib : BojLibrary} {raw : RawResponse} {series : BojFxDailySeries}
    (h : seriesOf lib raw = .ok series) :
    List.Forall₂ (fun pair item => ∃ day : Date, (toString pair.1).toList = Compact day ∧
      item = (⟨day.isoformat, pair.2.exact⟩ : BojFxObservation))
      (raw.series.values.surveyDates.zip raw.series.values.values) series.observations ∧
    (series.observations.map (·.observedOn)).Pairwise (· < ·) := by
  obtain ⟨observations, hobservations, h⟩ := bind_eq_ok.mp h
  obtain ⟨lastUpdate, -, h⟩ := bind_eq_ok.mp h
  obtain ⟨_, hcheck, h⟩ := bind_eq_ok.mp h
  cases h
  constructor
  · refine (mapM_eq_ok.mp hobservations).imp fun pair item hitem => ?_
    obtain ⟨day, hday, hitem⟩ := bind_eq_ok.mp hitem
    obtain ⟨_, -, hitem⟩ := bind_eq_ok.mp hitem
    cases hitem
    exact ⟨day, parseDay_eq_ok hday, rfl⟩
  · obtain ⟨_, -, hcheck⟩ := bind_eq_ok.mp hcheck
    obtain ⟨_, -, hcheck⟩ := bind_eq_ok.mp hcheck
    obtain ⟨_, -, hcheck⟩ := bind_eq_ok.mp hcheck
    obtain ⟨_, -, hcheck⟩ := bind_eq_ok.mp hcheck
    obtain ⟨_, -, hcheck⟩ := bind_eq_ok.mp hcheck
    obtain ⟨hsorted, hnodup⟩ := require_eq_ok.mp hcheck
    have hle : (observations.map (·.observedOn)).Pairwise (· ≤ ·) := by
      rw [hsorted]
      exact List.pairwise_insertionSort _ _
    exact (hle.and hnodup).imp fun h => lt_of_le_of_ne h.1 h.2

/-- Two exact statements about `parse_for_intent`. An exception that is not of the adapter
leaves it exactly for a decimal that does not fit, on a request and a response that are of this
series. And a series it returns is the one that is written: the response answers for the months
of the intent, its dates and values are those of the text, digit for digit, one observation for
each, on days that ascend inside these months. -/
theorem boj_series_exact (lib : BojLibrary) (response : BoundedSourceResponse sha256)
    (intent : CredentialFreeSourceIntent) :
    (∀ e, parseForIntent lib response intent = .error (.other e) ↔
      e = .invalidOperation ∧ buildIntent intent.operation.text intent.parameters = .ok intent ∧
      response.mediaType = "application/json" ∧ lib.lower response.encoding = "utf-8" ∧
      ∃ text, lib.decode response.body = some text ∧ Overflows lib (lib.jsonLoads text).calls) ∧
    ∀ series, parseForIntent lib response intent = .ok series →
      ∃ text tree dates values first last, lib.decode response.body = some text ∧
        lib.jsonLoads text = .complete tree ∧ Writes tree dates values ∧
        dates.length = values.length ∧
        parseMonth (parameterOf intent.parameters "start_date") = some first ∧
        parseMonth (parameterOf intent.parameters "end_date") = some last ∧
        Answers tree (parameterOf intent.parameters "start_date")
          (parameterOf intent.parameters "end_date") ∧
        List.Forall₂ (fun pair item => ∃ day : Date, (toString pair.1).toList = Compact day ∧
          item = (⟨day.isoformat, pair.2.exact⟩ : BojFxObservation) ∧
          MonthLe first day ∧ MonthLe day last) (dates.zip values) series.observations ∧
        (series.observations.map (·.observedOn)).Pairwise (· < ·) := by
  constructor
  · intro e
    constructor
    · intro h
      obtain h | ⟨built, hbuilt, h⟩ := bind_eq_error.mp h
      · cases buildIntent_error h
      obtain h | ⟨_, heq, hrest⟩ := bind_eq_error.mp h
      · cases (require_eq_error.mp h).2
      obtain rfl := require_eq_ok.mp heq
      clear h heq
      -- the parser is the only step that raises another exception
      obtain h | ⟨series, hseries, h⟩ := bind_eq_error.mp hrest
      · obtain ⟨rfl, hraised⟩ := parseBoj_raises_iff.mp h
        exact ⟨rfl, hbuilt, hraised⟩
      obtain h | ⟨_, -, h⟩ := bind_eq_error.mp h
      · obtain ⟨_, -, hbody⟩ := bind_eq_ok.mp hseries
        cases checkSemantics_error (mapError_eq_ok.mp hbody) h
      · cases h
    · rintro ⟨rfl, hbuilt, hrest⟩
      refine bind_eq_error.mpr (.inr ⟨intent, hbuilt, ?_⟩)
      refine bind_eq_error.mpr (.inr ⟨(), require_eq_ok.mpr rfl, ?_⟩)
      exact bind_eq_error.mpr (.inl (parseBoj_raises_iff.mpr ⟨rfl, hrest⟩))
  · -- what is returned went through every step
    intro series h
    obtain ⟨built, hbuilt, h⟩ := bind_eq_ok.mp h
    obtain ⟨_, -, h⟩ := bind_eq_ok.mp h
    obtain ⟨parsed, hparsed, h⟩ := bind_eq_ok.mp h
    obtain ⟨_, hsemantics, h⟩ := bind_eq_ok.mp h
    cases h
    obtain ⟨_, -, hbody⟩ := bind_eq_ok.mp hparsed
    obtain ⟨text, htext, hbody⟩ := bind_eq_ok.mp (mapError_eq_ok.mp hbody)
    obtain ⟨tree, htree, hbody⟩ := bind_eq_ok.mp hbody
    obtain ⟨raw, hraw, hseries⟩ := bind_eq_ok.mp hbody
    rw [fetch_eq_ok] at htext
    obtain ⟨hanswers, hbounds⟩ := checkSemantics_eq_ok htext htree hraw hsemantics
    obtain ⟨-, -, -, -, -, hwrites⟩ := RawResponse.validate_eq_ok hraw
    obtain ⟨first, last, hfirst, hlast⟩ := buildIntent_eq_ok hbuilt
    obtain ⟨hitems, hascend⟩ := seriesOf_eq_ok hseries
    refine ⟨text, tree, _, _, first, last, htext, (bojLoads_eq_ok htree).1, hwrites,
      raw.series.values.aligned, hfirst, hlast, hanswers, ?_, hascend⟩
    -- the months of the observations are those of the response
    refine (List.forall₂_iff_zip.mp hitems).1 |> fun hlength =>
      List.forall₂_iff_zip.mpr ⟨hlength, fun hmem => ?_⟩
    obtain ⟨day, hday, hitem⟩ := (List.forall₂_iff_zip.mp hitems).2 hmem
    obtain ⟨hstart, hstop⟩ := hbounds _ (List.of_mem_zip hmem).2
    rw [hitem] at hstart hstop
    exact ⟨day, hday, hitem,
      (month_le_iff (parseMonth_eq_some hfirst) (observedMonth_isoformat day)).mp hstart,
      (month_le_iff (observedMonth_isoformat day) (parseMonth_eq_some hlast)).mp hstop⟩

end

end StockResearch.Sources
