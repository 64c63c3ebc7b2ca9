import Mathlib.Data.List.Nodup
import StockResearch.Contracts.Values
import StockResearch.Lib.Outcome

/-!
# Parsing untrusted text

The JSON and YAML libraries read the text and hand every mapping to the wrapper's hooks;
what they return is then checked value by value. What the libraries do with a text is a
parameter: the hooks they call, in their order, and what they raise or return after that.

- `LibraryRun`, `Libraries`: the libraries.
- `parseText`: the code.
- `Clean`, `parseText_clean`: what is known of a value it returns.
- `parseText_typeError_iff`, `parseText_library_iff`: when a key that does not hash, or
  the library itself, ends it.
-/

namespace StockResearch.Contracts

/-! ## The libraries -/

/-- What the libraries raise. -/
inductive LibraryError where
  | jsonDecodeError
  | yamlError
  | valueError (message : PyStr)
deriving DecidableEq

/-- The constants `json.loads` hands to `parse_constant`. -/
inductive JsonConstant where
  | nan
  | infinity
  | minusInfinity

/-- The text of a constant. -/
def JsonConstant.text : JsonConstant → String
  | nan => "NaN"
  | infinity => "Infinity"
  | minusInfinity => "-Infinity"

/-- A call of one of the wrapper's hooks: a mapping to build from pairs with the given
keys, or a JSON constant. -/
inductive HookCall (κ : Type) where
  | mapping (keys : List κ)
  | constant (name : JsonConstant)

/-- One run of a parser: the hooks it calls, in order, and how it ends if no hook raises.
Every mapping of a value it returns was built by a hook. -/
structure LibraryRun {κ : Type} (key : κ → PyValue) where
  calls : List (HookCall κ)
  error : Option LibraryError
  value : PyValue
  complete : error = none → ∀ p ∈ value.within 0, ∀ entries, p.2 = .dict entries →
    ∃ keys, .mapping keys ∈ calls ∧ keys.map key = entries.map Prod.fst

/-- The run that raises before any mapping is read. -/
def LibraryRun.raising {κ : Type} {key : κ → PyValue} (error : LibraryError) : LibraryRun key :=
  ⟨[], some error, .none, nofun⟩

/-- A token of a YAML text: those that the wrapper refuses, and all others. -/
inductive YamlToken where
  | alias
  | anchor
  | tag
  | other
deriving DecidableEq

/-- `json.loads`, `yaml.scan` (its tokens, and what it raises after them) and `yaml.load`.
The keys of a JSON object are strings; those of a YAML mapping are any values. -/
structure Libraries where
  jsonLoads : PyStr → LibraryRun PyValue.str
  yamlScan : PyStr → List YamlToken × Option LibraryError
  yamlLoad : PyStr → LibraryRun (id : PyValue → PyValue)

/-! ## The hooks -/

/-- What `_parse_text` raises. -/
inductive ParseError where
  | duplicateKey
  | invalidJsonValue (message : String)
  | unicodeError
  | library (error : LibraryError)
  | valueError (message : String)
  | typeError
deriving DecidableEq

/-- The loop of `_unique_json_object`, after some keys. -/
def uniqueJsonObject (seen : List PyStr) : List PyStr → Except ParseError Unit
  | [] => .ok ()
  | key :: keys =>
    if key ∈ seen then .error (.invalidJsonValue "duplicate JSON object key")
    else uniqueJsonObject (seen ++ [key]) keys

/-- `_reject_json_constant` -/
def rejectJsonConstant (name : JsonConstant) : ParseError :=
  .invalidJsonValue ("non-finite JSON number is not allowed: " ++ name.text)

/-- The loop of `construct_mapping`, after some keys. Looking up a key that does not hash
is a `TypeError`. -/
def constructMapping (seen : List PyValue) : List PyValue → Except ParseError Unit
  | [] => .ok ()
  | key :: keys =>
    if key.hashable then
      if seen.any key.keyEq then .error .duplicateKey
      else constructMapping (seen ++ [key]) keys
    else .error .typeError

/-- The hooks of `json.loads`. -/
def jsonHook : HookCall PyStr → Except ParseError Unit
  | .mapping keys => uniqueJsonObject [] keys
  | .constant name => .error (rejectJsonConstant name)

/-- The hook of the YAML loader. -/
def yamlHook : HookCall PyValue → Except ParseError Unit
  | .mapping keys => constructMapping [] keys
  | .constant _ => .ok ()

/-- A run of a parser, with the hooks. -/
def LibraryRun.finish {κ : Type} {key : κ → PyValue} (run : LibraryRun key)
    (hook : HookCall κ → Except ParseError Unit) : Except ParseError PyValue := do
  run.calls.forM hook
  match run.error with
  | some error => .error (.library error)
  | none => pure run.value

/-! ## The check of a value -/

/-- `MAX_VALUE_DEPTH` -/
def maxValueDepth : Nat := 64

/-- `isinstance(value, str)` -/
def PyValue.isStr : PyValue → Bool
  | str _ => true
  | _ => false

/-- The check of the depth of a value. -/
def checkDepth (depth : Nat) : Except ParseError Unit :=
  require (depth ≤ maxValueDepth) (.valueError "input exceeds the safe parsing depth")

mutual

/-- `_ensure_json_value` -/
def ensureJsonValue (depth : Nat) : PyValue → Except ParseError Unit
  | .none => checkDepth depth
  | .bool _ => checkDepth depth
  | .int _ => checkDepth depth
  | .str _ => checkDepth depth
  | .float value => do
    checkDepth depth
    require value.isFinite (.valueError "non-finite number is not allowed")
  | .datetime _ => do
    checkDepth depth
    .error (.valueError "YAML value is not JSON-compatible")
  | .list items => do
    checkDepth depth
    ensureItems (depth + 1) items
  | .dict entries => do
    checkDepth depth
    ensureEntries (depth + 1) entries

/-- The loop over a list. -/
def ensureItems (depth : Nat) : List PyValue → Except ParseError Unit
  | [] => .ok ()
  | item :: items => do
    ensureJsonValue depth item
    ensureItems depth items

/-- The loop over a mapping. -/
def ensureEntries (depth : Nat) : List (PyValue × PyValue) → Except ParseError Unit
  | [] => .ok ()
  | (key, value) :: entries => do
    require key.isStr (.valueError "object keys must be strings")
    ensureJsonValue depth value
    ensureEntries depth entries

end

/-! ## The text -/

/-- `InputFormat` -/
inductive InputFormat where
  | json
  | yaml
deriving DecidableEq

/-- `MAX_INPUT_BYTES` -/
def maxInputBytes : Nat := 1000000

/-- The loop over `yaml.scan(text)`. -/
def scanTokens (scan : List YamlToken × Option LibraryError) : Except ParseError Unit :=
  if scan.1.any (· ∈ [.alias, .anchor, .tag]) then .error (.library .yamlError)
  else
    match scan.2 with
    | some error => .error (.library error)
    | none => .ok ()

/-- The parser of a format, with the wrapper's hooks. -/
def readText (libraries : Libraries) (text : PyStr) : InputFormat → Except ParseError PyValue
  | .json => (libraries.jsonLoads text).finish jsonHook
  | .yaml => do
    scanTokens (libraries.yamlScan text)
    (libraries.yamlLoad text).finish yamlHook

/-- `_parse_text` -/
def parseText (libraries : Libraries) (text : PyStr) (format : InputFormat) :
    Except ParseError PyValue := do
  let length ← fetch text.encodedLength .unicodeError
  require (length ≤ maxInputBytes) (.valueError "input exceeds the safe parsing size")
  let value ← readText libraries text format
  ensureJsonValue 0 value
  pure value

/-! ## What a value that passes is -/

/-- A value with JSON inside, its mappings keyed by distinct strings, its numbers finite
and nothing deeper than the limit. -/
structure Clean (value : PyValue) : Prop where
  depth : ∀ p ∈ value.within 0, p.1 ≤ 64
  finite : ∀ p ∈ value.within 0, ∀ number, p.2 = .float number → number.isFinite
  json : ∀ p ∈ value.within 0, ∀ isoformat, p.2 ≠ .datetime isoformat
  strings : ∀ p ∈ value.within 0, ∀ entries, p.2 = .dict entries → ∀ e ∈ entries, e.1.isStr
  distinct : ∀ p ∈ value.within 0, ∀ entries, p.2 = .dict entries →
    (entries.map Prod.fst).Nodup

/-- What `_ensure_json_value` asks of a value at its place. -/
def Allowed (p : Nat × PyValue) : Prop :=
  p.1 ≤ maxValueDepth ∧
    match p.2 with
    | .float value => value.isFinite
    | .datetime _ => False
    | .dict entries => ∀ e ∈ entries, e.1.isStr
    | _ => True

mutual

theorem ensureJsonValue_iff (depth : Nat) : ∀ value : PyValue,
    ensureJsonValue depth value = .ok () ↔ ∀ p ∈ value.within depth, Allowed p
  | .none => by simp [ensureJsonValue, checkDepth, PyValue.within, Allowed]
  | .bool _ => by simp [ensureJsonValue, checkDepth, PyValue.within, Allowed]
  | .int _ => by simp [ensureJsonValue, checkDepth, PyValue.within, Allowed]
  | .str _ => by simp [ensureJsonValue, checkDepth, PyValue.within, Allowed]
  | .float _ => by simp [ensureJsonValue, checkDepth, PyValue.within, Allowed, bind_eq_ok]
  | .datetime _ => by simp [ensureJsonValue, checkDepth, PyValue.within, Allowed, bind_eq_ok]
  | .list items => by
    simp only [ensureJsonValue, checkDepth, PyValue.within, bind_eq_ok, require_eq_ok,
      List.forall_mem_cons, ensureItems_iff (depth + 1) items]
    simp [Allowed]
  | .dict entries => by
    simp only [ensureJsonValue, checkDepth, PyValue.within, bind_eq_ok, require_eq_ok,
      List.forall_mem_cons, ensureEntries_iff (depth + 1) entries]
    simp [Allowed, and_assoc]

theorem ensureItems_iff (depth : Nat) : ∀ items : List PyValue,
    ensureItems depth items = .ok () ↔ ∀ p ∈ PyValue.itemsWithin depth items, Allowed p
  | [] => by simp [ensureItems, PyValue.itemsWithin]
  | item :: items => by
    simp only [ensureItems, PyValue.itemsWithin, bind_eq_ok, List.forall_mem_append,
      ensureJsonValue_iff depth item, ensureItems_iff depth items]
    simp

theorem ensureEntries_iff (depth : Nat) : ∀ entries : List (PyValue × PyValue),
    ensureEntries depth entries = .ok () ↔
      (∀ e ∈ entries, e.1.isStr) ∧ ∀ p ∈ PyValue.entriesWithin depth entries, Allowed p
  | [] => by simp [ensureEntries, PyValue.entriesWithin]
  | (key, value) :: entries => by
    simp only [ensureEntries, PyValue.entriesWithin, bind_eq_ok, require_eq_ok,
      List.forall_mem_append, List.forall_mem_cons, ensureJsonValue_iff depth value,
      ensureEntries_iff depth entries]
    simp only [exists_const, and_assoc]
    exact and_congr_right fun _ => and_left_comm

end

/-! ## What the hooks find -/

theorem uniqueJsonObject_eq_ok {keys : List PyStr} : ∀ {seen : List PyStr},
    uniqueJsonObject seen keys = .ok () ↔ keys.Nodup ∧ ∀ key ∈ keys, key ∉ seen := by
  induction keys with
  | nil => simp [uniqueJsonObject]
  | cons key keys ih =>
    intro seen
    rw [uniqueJsonObject]
    split
    · rename_i htaken
      simp [htaken]
    · rename_i hfree
      rw [ih, List.nodup_cons, List.forall_mem_cons]
      simp only [List.mem_append, List.mem_singleton, not_or]
      constructor
      · rintro ⟨hnodup, hkeys⟩
        exact ⟨⟨fun hmem => (hkeys key hmem).2 rfl, hnodup⟩, hfree,
          fun k hk => (hkeys k hk).1⟩
      · rintro ⟨⟨hnew, hnodup⟩, -, hkeys⟩
        exact ⟨hnodup, fun k hk => ⟨hkeys k hk, fun heq => hnew (heq ▸ hk)⟩⟩

theorem constructMapping_eq_ok {keys : List PyValue} : ∀ {seen : List PyValue},
    constructMapping seen keys = .ok () ↔ (∀ key ∈ keys, key.hashable) ∧
      keys.Pairwise (fun a b => b.keyEq a = false) ∧
      ∀ key ∈ keys, ∀ s ∈ seen, key.keyEq s = false := by
  induction keys with
  | nil => simp [constructMapping]
  | cons key keys ih =>
    intro seen
    rw [constructMapping, List.pairwise_cons]
    simp only [List.forall_mem_cons]
    split
    · rename_i hhash
      split
      · -- a repeated key
        rename_i htaken
        obtain ⟨s, hs, heq⟩ := List.any_eq_true.mp htaken
        constructor
        · nofun
        · rintro ⟨-, -, hnew, -⟩
          rw [hnew s hs] at heq
          cases heq
      · -- a new key
        rename_i hfree
        have hnew : ∀ s ∈ seen, key.keyEq s = false := by
          simpa [List.any_eq_true] using hfree
        rw [ih]
        simp only [List.mem_append, List.mem_singleton, or_imp, forall_and, forall_eq]
        constructor
        · rintro ⟨hkeys, hpairs, hseen, hfirst⟩
          exact ⟨⟨hhash, hkeys⟩, ⟨hfirst, hpairs⟩, hnew, hseen⟩
        · rintro ⟨⟨-, hkeys⟩, ⟨hfirst, hpairs⟩, -, hseen⟩
          exact ⟨hkeys, hpairs, hseen, hfirst⟩
    · -- a list or a mapping, which does not hash
      rename_i hhash
      constructor
      · nofun
      · rintro ⟨⟨hkey, -⟩, -⟩
        exact absurd hkey hhash

/-- A `TypeError` comes of the first key that is not a new one, if it is a list or a
mapping. -/
theorem constructMapping_eq_typeError {keys : List PyValue} : ∀ {seen : List PyValue},
    constructMapping seen keys = .error .typeError ↔ ∃ done key rest,
      keys = done ++ key :: rest ∧ constructMapping seen done = .ok () ∧
        key.hashable = false := by
  induction keys with
  | nil => simp [constructMapping]
  | cons key keys ih =>
    intro seen
    rw [constructMapping]
    split
    · rename_i hhash
      split
      · -- the repeated key is refused first, with another error
        rename_i htaken
        constructor
        · nofun
        · rintro ⟨done, k, rest, heq, hdone, hk⟩
          cases done with
          | nil =>
            cases heq
            rw [hhash] at hk
            cases hk
          | cons d done =>
            cases heq
            rw [constructMapping, if_pos hhash, if_pos htaken] at hdone
            cases hdone
      · -- the loop goes on
        rename_i hfree
        rw [ih]
        constructor
        · rintro ⟨done, k, rest, rfl, hdone, hk⟩
          exact ⟨key :: done, k, rest, rfl,
            by rw [constructMapping, if_pos hhash, if_neg hfree]; exact hdone, hk⟩
        · rintro ⟨done, k, rest, heq, hdone, hk⟩
          cases done with
          | nil =>
            cases heq
            rw [hhash] at hk
            cases hk
          | cons d done =>
            cases heq
            rw [constructMapping, if_pos hhash, if_neg hfree] at hdone
            exact ⟨done, k, rest, rfl, hdone, hk⟩
    · -- here it raises
      rename_i hhash
      refine ⟨fun _ => ⟨[], key, keys, rfl, rfl, eq_false_of_ne_true hhash⟩, fun _ => rfl⟩

/-- Every mapping of a value that a run returns has distinct keys, if its hook sees to
that and they are strings. -/
theorem LibraryRun.finish_distinct {κ : Type} {key : κ → PyValue} {run : LibraryRun key}
    {hook : HookCall κ → Except ParseError Unit} {value : PyValue}
    (hhook : ∀ keys, hook (.mapping keys) = .ok () → (∀ k ∈ keys, (key k).isStr) →
      (keys.map key).Nodup)
    (h : run.finish hook = .ok value) :
    ∀ p ∈ value.within 0, ∀ entries, p.2 = .dict entries → (∀ e ∈ entries, e.1.isStr) →
      (entries.map Prod.fst).Nodup := by
  simp only [LibraryRun.finish, bind_eq_ok] at h
  obtain ⟨⟨⟩, hcalls, h⟩ := h
  cases herror : run.error with
  | some error => simp [herror] at h
  | none =>
    simp only [herror, pure_eq_ok] at h
    subst h
    intro p hp entries hdict hstr
    obtain ⟨keys, hmem, hkeys⟩ := run.complete herror p hp entries hdict
    rw [← hkeys]
    refine hhook keys (forM_eq_ok.mp hcalls _ hmem) fun k hk => ?_
    have hkey : key k ∈ entries.map Prod.fst := hkeys ▸ List.mem_map_of_mem hk
    obtain ⟨e, he, heq⟩ := List.mem_map.mp hkey
    exact heq ▸ hstr e he

theorem jsonHook_distinct (keys : List PyStr) (h : jsonHook (.mapping keys) = .ok ()) :
    (keys.map PyValue.str).Nodup := by
  refine List.Nodup.map (fun a b hab => ?_) (uniqueJsonObject_eq_ok.mp h).1
  injection hab

theorem yamlHook_distinct (keys : List PyValue) (h : yamlHook (.mapping keys) = .ok ())
    (hstr : ∀ k ∈ keys, k.isStr) : (keys.map id).Nodup := by
  rw [List.map_id]
  refine ((constructMapping_eq_ok.mp h).2.1).imp_of_mem ?_
  intro a b ha hb hne heq
  subst heq
  obtain ⟨s, rfl⟩ : ∃ s, a = .str s := by
    have hs := hstr a ha
    cases a <;> simp_all [PyValue.isStr]
  simp [PyValue.keyEq] at hne

/-- **A value that passes is clean.** -/
theorem parseText_clean {libraries : Libraries} {text : PyStr} {format : InputFormat}
    {value : PyValue} (h : parseText libraries text format = .ok value) : Clean value := by
  simp only [parseText, bind_eq_ok, pure_eq_ok] at h
  obtain ⟨-, -, -, -, parsed, hread, ⟨⟩, hensure, rfl⟩ := h
  have hallowed := (ensureJsonValue_iff 0 parsed).mp hensure
  -- every key is a text
  have hstrings : ∀ p ∈ parsed.within 0, ∀ entries, p.2 = .dict entries →
      ∀ e ∈ entries, e.1.isStr := by
    intro p hp entries hdict
    have hp := (hallowed p hp).2
    rw [hdict] at hp
    exact hp
  refine ⟨fun p hp => (hallowed p hp).1, ?_, ?_, hstrings, ?_⟩
  · intro p hp number hfloat
    have hp := (hallowed p hp).2
    rw [hfloat] at hp
    exact hp
  · intro p hp isoformat hdate
    have hp := (hallowed p hp).2
    rw [hdate] at hp
    exact hp
  · intro p hp entries hdict
    have hstr := hstrings p hp entries hdict
    cases format with
    -- the hooks of the two readers see the keys as they are written
    | json =>
      exact LibraryRun.finish_distinct (fun keys h _ => jsonHook_distinct keys h) hread p hp
        entries hdict hstr
    | yaml =>
      simp only [readText, bind_eq_ok] at hread
      obtain ⟨-, -, hread⟩ := hread
      exact LibraryRun.finish_distinct yamlHook_distinct hread p hp entries hdict hstr

/-! ## What may be raised -/

/-- What the check of the depth raises. -/
theorem checkDepth_error {depth : Nat} {e : ParseError} (h : checkDepth depth = .error e) :
    ∃ message, e = .valueError message ∧ message ≠ "" := by
  obtain ⟨-, rfl⟩ := require_eq_error.mp h
  exact ⟨_, rfl, by decide⟩

mutual

theorem ensureJsonValue_error (depth : Nat) {e : ParseError} : ∀ value : PyValue,
    ensureJsonValue depth value = .error e → ∃ message, e = .valueError message ∧ message ≠ ""
  | .none, h => checkDepth_error h
  | .bool _, h => checkDepth_error h
  | .int _, h => checkDepth_error h
  | .str _, h => checkDepth_error h
  | .float _, h => by
    simp only [ensureJsonValue, bind_eq_error, require_eq_error] at h
    obtain h | ⟨-, -, -, rfl⟩ := h
    · exact checkDepth_error h
    · exact ⟨_, rfl, by decide⟩
  | .datetime _, h => by
    simp only [ensureJsonValue, bind_eq_error, Except.error.injEq] at h
    obtain h | ⟨-, -, rfl⟩ := h
    · exact checkDepth_error h
    · exact ⟨_, rfl, by decide⟩
  | .list items, h => by
    simp only [ensureJsonValue, bind_eq_error] at h
    obtain h | ⟨-, -, h⟩ := h
    · exact checkDepth_error h
    · exact ensureItems_error (depth + 1) items h
  | .dict entries, h => by
    simp only [ensureJsonValue, bind_eq_error] at h
    obtain h | ⟨-, -, h⟩ := h
    · exact checkDepth_error h
    · exact ensureEntries_error (depth + 1) entries h

theorem ensureItems_error (depth : Nat) {e : ParseError} : ∀ items : List PyValue,
    ensureItems depth items = .error e → ∃ message, e = .valueError message ∧ message ≠ ""
  | [], h => nomatch h
  | item :: items, h => by
    simp only [ensureItems, bind_eq_error] at h
    obtain h | ⟨-, -, h⟩ := h
    · exact ensureJsonValue_error depth item h
    · exact ensureItems_error depth items h

theorem ensureEntries_error (depth : Nat) {e : ParseError} : ∀ entries : List (PyValue × PyValue),
    ensureEntries depth entries = .error e → ∃ message, e = .valueError message ∧ message ≠ ""
  | [], h => nomatch h
  | (key, value) :: entries, h => by
    simp only [ensureEntries, bind_eq_error, require_eq_error] at h
    obtain ⟨-, rfl⟩ | ⟨-, -, h | ⟨-, -, h⟩⟩ := h
    · exact ⟨_, rfl, by decide⟩
    · exact ensureJsonValue_error depth value h
    · exact ensureEntries_error depth entries h

end

theorem uniqueJsonObject_error {keys : List PyStr} {e : ParseError} : ∀ {seen : List PyStr},
    uniqueJsonObject seen keys = .error e → e = .invalidJsonValue "duplicate JSON object key" := by
  induction keys with
  | nil => exact nofun
  | cons key keys ih =>
    intro seen h
    rw [uniqueJsonObject] at h
    split at h
    · exact (Except.error.inj h).symm
    · exact ih h

theorem constructMapping_error {keys : List PyValue} {e : ParseError} :
    ∀ {seen : List PyValue}, constructMapping seen keys = .error e →
      e = .duplicateKey ∨ e = .typeError := by
  induction keys with
  | nil => exact nofun
  | cons key keys ih =>
    intro seen h
    rw [constructMapping] at h
    split at h
    · split at h
      · exact .inl (Except.error.inj h).symm
      · exact ih h
    · exact .inr (Except.error.inj h).symm

/-- What the hooks of `json.loads` raise. -/
theorem jsonHook_error {call : HookCall PyStr} {e : ParseError} (h : jsonHook call = .error e) :
    ∃ message, e = .invalidJsonValue message ∧ message ≠ "" := by
  cases call with
  | mapping keys => exact ⟨_, uniqueJsonObject_error h, by decide⟩
  | constant name =>
    refine ⟨_, (Except.error.inj h).symm, ?_⟩
    cases name <;> decide

theorem yamlHook_error {call : HookCall PyValue} {e : ParseError} (h : yamlHook call = .error e) :
    e = .duplicateKey ∨ e = .typeError := by
  cases call with
  | mapping keys => exact constructMapping_error h
  | constant name => cases h

/-- A run ends with what a hook raises, or with what the library does. -/
theorem LibraryRun.finish_eq_error {κ : Type} {key : κ → PyValue} {run : LibraryRun key}
    {hook : HookCall κ → Except ParseError Unit} {e : ParseError} :
    run.finish hook = .error e ↔ run.calls.forM hook = .error e ∨
      (∀ call ∈ run.calls, hook call = .ok ()) ∧
        ∃ error, run.error = some error ∧ e = .library error := by
  simp only [LibraryRun.finish, bind_eq_error]
  refine or_congr_right ⟨?_, ?_⟩
  · rintro ⟨⟨⟩, hcalls, h⟩
    refine ⟨forM_eq_ok.mp hcalls, ?_⟩
    cases herror : run.error with
    | some error =>
      simp only [herror, Except.error.injEq] at h
      exact ⟨error, rfl, h.symm⟩
    | none => simp [herror, pure, Except.pure] at h
  · rintro ⟨hcalls, error, herror, rfl⟩
    exact ⟨⟨⟩, forM_eq_ok.mpr hcalls, by simp [herror]⟩

/-- The text is Unicode and not too long. -/
def Readable (text : PyStr) : Prop := ∃ length ∈ text.encodedLength, length ≤ maxInputBytes

/-- The scan finds no refused token and ends well. -/
def Scans (libraries : Libraries) (text : PyStr) : Prop :=
  scanTokens (libraries.yamlScan text) = .ok ()

/-- The YAML loader, before anything else fails, builds a mapping in which a list or a
mapping comes up as a key. -/
def MeetsUnhashableKey (libraries : Libraries) (text : PyStr) : Prop :=
  Readable text ∧ Scans libraries text ∧ ∃ before keys after,
    (libraries.yamlLoad text).calls = before ++ .mapping keys :: after ∧
      (∀ call ∈ before, yamlHook call = .ok ()) ∧
      ∃ done key rest, keys = done ++ key :: rest ∧ constructMapping [] done = .ok () ∧
        key.hashable = false

/-- The library raises an error of its own, before anything else fails. -/
def LibraryRaises (libraries : Libraries) (text : PyStr) (error : LibraryError) :
    InputFormat → Prop
  | .json => Readable text ∧
      (∀ call ∈ (libraries.jsonLoads text).calls, jsonHook call = .ok ()) ∧
      (libraries.jsonLoads text).error = some error
  | .yaml => Readable text ∧
      (scanTokens (libraries.yamlScan text) = .error (.library error) ∨
        Scans libraries text ∧
          (∀ call ∈ (libraries.yamlLoad text).calls, yamlHook call = .ok ()) ∧
          (libraries.yamlLoad text).error = some error)

section
variable {libraries : Libraries} {text : PyStr} {format : InputFormat}

theorem parseText_eq_error {e : ParseError} :
    parseText libraries text format = .error e ↔
      (text.encodedLength = none ∧ e = .unicodeError) ∨
      (∃ length, text.encodedLength = some length ∧ ¬ length ≤ maxInputBytes ∧
        e = .valueError "input exceeds the safe parsing size") ∨
      Readable text ∧ (readText libraries text format = .error e ∨
        ∃ value, readText libraries text format = .ok value ∧
          ensureJsonValue 0 value = .error e) := by
  simp only [parseText, bind_eq_error, fetch_eq_error, fetch_eq_ok, require_eq_error,
    require_eq_ok, Readable, Option.mem_def]
  constructor
  · rintro (⟨hnone, rfl⟩ | ⟨length, hlength, ⟨hlong, rfl⟩ | ⟨-, hshort, h⟩⟩)
    · exact .inl ⟨hnone, rfl⟩
    · exact .inr (.inl ⟨length, hlength, hlong, rfl⟩)
    · refine .inr (.inr ⟨⟨length, hlength, hshort⟩, ?_⟩)
      obtain h | ⟨value, hread, h | ⟨-, -, h⟩⟩ := h
      · exact .inl h
      · exact .inr ⟨value, hread, h⟩
      · cases h
  · rintro (⟨hnone, rfl⟩ | ⟨length, hlength, hlong, rfl⟩ | ⟨⟨length, hlength, hshort⟩, h⟩)
    · exact .inl ⟨hnone, rfl⟩
    · exact .inr ⟨length, hlength, .inl ⟨hlong, rfl⟩⟩
    · refine .inr ⟨length, hlength, .inr ⟨(), hshort, ?_⟩⟩
      obtain h | ⟨value, hread, h⟩ := h
      · exact .inl h
      · exact .inr ⟨value, hread, .inl h⟩

theorem scanTokens_error {scan : List YamlToken × Option LibraryError} {e : ParseError}
    (h : scanTokens scan = .error e) : ∃ error, e = .library error := by
  unfold scanTokens at h
  split at h
  · exact ⟨_, (Except.error.inj h).symm⟩
  · split at h
    · exact ⟨_, (Except.error.inj h).symm⟩
    · cases h

theorem readText_yaml_eq_error {e : ParseError} :
    readText libraries text .yaml = .error e ↔
      scanTokens (libraries.yamlScan text) = .error e ∨
      Scans libraries text ∧ (libraries.yamlLoad text).finish yamlHook = .error e := by
  simp only [readText, bind_eq_error, Scans]
  exact or_congr_right ⟨fun ⟨⟨⟩, hscan, h⟩ => ⟨hscan, h⟩, fun ⟨hscan, h⟩ => ⟨⟨⟩, hscan, h⟩⟩

/-- A `TypeError` ends the parsing exactly when a key that does not hash does. -/
theorem parseText_typeError_iff :
    parseText libraries text format = .error .typeError ↔
      format = .yaml ∧ MeetsUnhashableKey libraries text := by
  rw [parseText_eq_error]
  constructor
  · -- the JSON hook raises no `TypeError`, so only a mapping of YAML is left
    rintro (⟨-, h⟩ | ⟨_, -, -, h⟩ | ⟨hreadable, h | ⟨value, -, h⟩⟩)
    · cases h
    · cases h
    · cases format with
      | json =>
        rw [readText, LibraryRun.finish_eq_error] at h
        rcases h with h | ⟨-, _, -, h⟩
        · obtain ⟨-, call, -, -, -, h⟩ := forM_eq_error.mp h
          obtain ⟨message, h, -⟩ := jsonHook_error h
          cases h
        · cases h
      | yaml =>
        rw [readText_yaml_eq_error] at h
        rcases h with h | ⟨hscan, h⟩
        · obtain ⟨_, h⟩ := scanTokens_error h
          cases h
        · rw [LibraryRun.finish_eq_error] at h
          rcases h with h | ⟨-, _, -, h⟩
          · obtain ⟨before, call, after, hcalls, hbefore, h⟩ := forM_eq_error.mp h
            cases call with
            | constant name => cases h
            | mapping keys =>
              exact ⟨rfl, hreadable, hscan, before, keys, after, hcalls, hbefore,
                constructMapping_eq_typeError.mp h⟩
          · cases h
    · obtain ⟨_, h, -⟩ := ensureJsonValue_error 0 value h
      cases h
  · rintro ⟨rfl, hreadable, hscan, before, keys, after, hcalls, hbefore, hkeys⟩
    refine .inr (.inr ⟨hreadable, .inl (readText_yaml_eq_error.mpr (.inr ⟨hscan, ?_⟩))⟩)
    exact LibraryRun.finish_eq_error.mpr (.inl (forM_eq_error.mpr
      ⟨before, .mapping keys, after, hcalls, hbefore, constructMapping_eq_typeError.mpr hkeys⟩))

/-- What the library raises ends the parsing exactly when no hook raises before. -/
theorem parseText_library_iff {error : LibraryError} :
    parseText libraries text format = .error (.library error) ↔
      LibraryRaises libraries text error format := by
  rw [parseText_eq_error]
  constructor
  · -- the hooks raise errors of their own, so the library's comes after all of them
    rintro (⟨-, h⟩ | ⟨_, -, -, h⟩ | ⟨hreadable, h | ⟨value, -, h⟩⟩)
    · cases h
    · cases h
    · cases format with
      | json =>
        rw [readText, LibraryRun.finish_eq_error] at h
        rcases h with h | ⟨hcalls, _, herror, h⟩
        · obtain ⟨-, call, -, -, -, h⟩ := forM_eq_error.mp h
          obtain ⟨message, h, -⟩ := jsonHook_error h
          cases h
        · cases h
          exact ⟨hreadable, hcalls, herror⟩
      | yaml =>
        rw [readText_yaml_eq_error] at h
        rcases h with h | ⟨hscan, h⟩
        · exact ⟨hreadable, .inl h⟩
        · rw [LibraryRun.finish_eq_error] at h
          rcases h with h | ⟨hcalls, _, herror, h⟩
          · obtain ⟨-, call, -, -, -, h⟩ := forM_eq_error.mp h
            rcases yamlHook_error h with h | h <;> cases h
          · cases h
            exact ⟨hreadable, .inr ⟨hscan, hcalls, herror⟩⟩
    · obtain ⟨_, h, -⟩ := ensureJsonValue_error 0 value h
      cases h
  · intro h
    refine .inr (.inr ?_)
    cases format with
    | json =>
      obtain ⟨hreadable, hcalls, herror⟩ := h
      exact ⟨hreadable, .inl (LibraryRun.finish_eq_error.mpr (.inr ⟨hcalls, error, herror, rfl⟩))⟩
    | yaml =>
      obtain ⟨hreadable, hscan | ⟨hscan, hcalls, herror⟩⟩ := h
      · exact ⟨hreadable, .inl (readText_yaml_eq_error.mpr (.inl hscan))⟩
      · exact ⟨hreadable, .inl (readText_yaml_eq_error.mpr (.inr ⟨hscan,
          LibraryRun.finish_eq_error.mpr (.inr ⟨hcalls, error, herror, rfl⟩)⟩))⟩

/-- Its own errors carry a text. -/
theorem parseText_message {message : String}
    (h : parseText libraries text format = .error (.valueError message) ∨
      parseText libraries text format = .error (.invalidJsonValue message)) : message ≠ "" := by
  -- the messages of the hooks
  have hread : ∀ e, readText libraries text format = .error e →
      e = .valueError message ∨ e = .invalidJsonValue message → message ≠ "" := by
    intro e h he
    cases format with
    | json =>
      rw [readText, LibraryRun.finish_eq_error] at h
      rcases h with h | ⟨-, _, -, rfl⟩
      · obtain ⟨-, call, -, -, -, h⟩ := forM_eq_error.mp h
        obtain ⟨m, rfl, hm⟩ := jsonHook_error h
        rcases he with he | he <;> cases he
        exact hm
      · rcases he with he | he <;> cases he
    | yaml =>
      rw [readText_yaml_eq_error, LibraryRun.finish_eq_error] at h
      rcases h with h | ⟨-, h | ⟨-, _, -, rfl⟩⟩
      · obtain ⟨_, rfl⟩ := scanTokens_error h
        rcases he with he | he <;> cases he
      · obtain ⟨-, call, -, -, -, h⟩ := forM_eq_error.mp h
        rcases yamlHook_error h with rfl | rfl <;> rcases he with he | he <;> cases he
      · rcases he with he | he <;> cases he
  simp only [parseText_eq_error] at h
  -- each of the four places that raise has a message
  obtain (⟨-, h⟩ | ⟨_, -, -, h⟩ | ⟨-, h | ⟨value, -, h⟩⟩) |
    (⟨-, h⟩ | ⟨_, -, -, h⟩ | ⟨-, h | ⟨value, -, h⟩⟩) := h
  · cases h
  · cases h
    decide
  · exact hread _ h (.inl rfl)
  · obtain ⟨m, heq, hm⟩ := ensureJsonValue_error 0 value h
    cases heq
    exact hm
  · cases h
  · cases h
  · exact hread _ h (.inr rfl)
  · obtain ⟨m, heq, -⟩ := ensureJsonValue_error 0 value h
    cases heq

end

end StockResearch.Contracts
