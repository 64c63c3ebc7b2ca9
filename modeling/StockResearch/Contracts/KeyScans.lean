import StockResearch.Contracts.Errors
import StockResearch.Contracts.Pointer
import StockResearch.Lib.Outcome
import StockResearch.Lib.Table

/-!
# Scans for forbidden keys

Two scans walk through a JSON value and raise at the first object key whose normalization
is forbidden: secrets, and instructions from outside. What they say depends on the keys of
the value and where they stand, never on what its leaves hold.

- `normalizedKey`: case-folded, and nothing but ASCII letters and digits.
- `ensureNoSecretFields`, `ensureExternalContentIsData`: the code.
- `JsonValue.keysFrom`: every key of a value once, in document order.
- `scans_exact`: what the scans raise, where it points, and that leaves do not matter.
-/

namespace StockResearch.Contracts

open PyStr (ofString)

/-! ## Keys -/

/-- The ASCII letters and digits in the case folding of a code point. -/
def foldedAscii (c : Fin 0x110000) : List Char :=
  let n := c.val
  if 0x41 ≤ n ∧ n ≤ 0x5a then [Char.ofNat (n + 32)]
  else if (0x61 ≤ n ∧ n ≤ 0x7a) ∨ (0x30 ≤ n ∧ n ≤ 0x39) then [Char.ofNat n]
  else
    -- beyond ASCII: ligatures, letters whose marks are split off, the long s, the kelvin sign
    match n with
    | 0xdf | 0x1e9e => ['s', 's']
    | 0x130 => ['i']
    | 0x149 => ['n']
    | 0x17f => ['s']
    | 0x1f0 => ['j']
    | 0x1e96 => ['h']
    | 0x1e97 => ['t']
    | 0x1e98 => ['w']
    | 0x1e99 => ['y']
    | 0x1e9a => ['a']
    | 0x212a => ['k']
    | 0xfb00 => ['f', 'f']
    | 0xfb01 => ['f', 'i']
    | 0xfb02 => ['f', 'l']
    | 0xfb03 => ['f', 'f', 'i']
    | 0xfb04 => ['f', 'f', 'l']
    | 0xfb05 | 0xfb06 => ['s', 't']
    | _ => []

/-- `_normalized_key` -/
def normalizedKey (value : PyStr) : String := String.ofList (value.flatMap foldedAscii)

/-- What a scan looks for, and what it raises. -/
structure KeyRule where
  forbidden : List String
  code : ErrorCode
  message : String

/-- A key is forbidden. -/
def KeyRule.Forbids (rule : KeyRule) (key : PyStr) : Prop := normalizedKey key ∈ rule.forbidden

instance (rule : KeyRule) (key : PyStr) : Decidable (rule.Forbids key) :=
  inferInstanceAs (Decidable (normalizedKey key ∈ rule.forbidden))

/-- `FORBIDDEN_SECRET_KEYS` -/
def secretFields : KeyRule where
  forbidden := ["apikey", "accesstoken", "password", "privatekey", "secret"]
  code := .secretMaterialDetected
  message := "secret-bearing field is not allowed in this artifact"

/-- `FORBIDDEN_EXTERNAL_INSTRUCTION_KEYS` -/
def externalInstructions : KeyRule where
  forbidden := ["externalinstruction", "instructionsfromsource", "promptfromsource",
    "untrustedsystemprompt"]
  code := .externalInstructionDetected
  message := "external content must remain untrusted data, not Agent instructions"

/-- The issue of a key at a path. -/
def KeyRule.issue (rule : KeyRule) (path key : PyStr) : ValidationIssue where
  category := .security
  code := rule.code
  message := ofString rule.message
  instancePath := path
  context := [(ofString "field_name", .str key)]

/-! ## The scans -/

mutual

/-- The body of the two scans. -/
def scanKeys (rule : KeyRule) (path : PyStr) : JsonValue → Except ValidationIssue Unit
  | .dict entries => scanEntries rule path entries
  | .list items => scanItems rule path 0 items
  | .null => .ok ()
  | .bool _ => .ok ()
  | .int _ => .ok ()
  | .float _ => .ok ()
  | .str _ => .ok ()

/-- The loop over the entries of an object. -/
def scanEntries (rule : KeyRule) (path : PyStr) :
    List (PyStr × JsonValue) → Except ValidationIssue Unit
  | [] => .ok ()
  | (key, child) :: entries => do
    let childPath := path ++ (ofString "/" ++ escapeToken key)
    require (¬ rule.Forbids key) (rule.issue childPath key)
    scanKeys rule childPath child
    scanEntries rule path entries

/-- The loop over the items of an array. -/
def scanItems (rule : KeyRule) (path : PyStr) (index : Nat) :
    List JsonValue → Except ValidationIssue Unit
  | [] => .ok ()
  | item :: items => do
    scanKeys rule (path ++ (ofString "/" ++ ofString (toString index))) item
    scanItems rule path (index + 1) items

end

/-- `ensure_no_secret_fields` -/
def ensureNoSecretFields (value : JsonValue) : Except ValidationIssue Unit :=
  scanKeys secretFields [] value

/-- `ensure_external_content_is_data` -/
def ensureExternalContentIsData (value : JsonValue) : Except ValidationIssue Unit :=
  scanKeys externalInstructions [] value

/-! ## What is in a value -/

namespace JsonValue

/-- The child of a name: the value of a key, or the item at an index. -/
def child : JsonValue → PyStr → Option JsonValue
  | .dict entries, name => (entries.find? (·.1 = name)).map (·.2)
  | .list items, name => (indexOf name).bind (items[·]?)
  | _, _ => none

mutual

/-- The keys of every object of the value differ, as those of a `dict` do. -/
def keysDiffer : JsonValue → Bool
  | .dict entries => (entries.map Prod.fst).Nodup && entriesDiffer entries
  | .list items => itemsDiffer items
  | .null => true
  | .bool _ => true
  | .int _ => true
  | .float _ => true
  | .str _ => true

/-- So do those of the objects in a mapping. -/
def entriesDiffer : List (PyStr × JsonValue) → Bool
  | [] => true
  | (_, value) :: entries => value.keysDiffer && entriesDiffer entries

/-- So do those of the objects in a list. -/
def itemsDiffer : List JsonValue → Bool
  | [] => true
  | item :: items => item.keysDiffer && itemsDiffer items

end

mutual

/-- The value and every value inside it. -/
def inside : JsonValue → List JsonValue
  | .dict entries => .dict entries :: entriesInside entries
  | .list items => .list items :: itemsInside items
  | .null => [.null]
  | .bool value => [.bool value]
  | .int value => [.int value]
  | .float value => [.float value]
  | .str value => [.str value]

/-- The values inside a mapping. -/
def entriesInside : List (PyStr × JsonValue) → List JsonValue
  | [] => []
  | (_, value) :: entries => value.inside ++ entriesInside entries

/-- The values inside a list. -/
def itemsInside : List JsonValue → List JsonValue
  | [] => []
  | item :: items => item.inside ++ itemsInside items

end

mutual

/-- The value with every leaf made the same. -/
def skeleton : JsonValue → JsonValue
  | .dict entries => .dict (entriesSkeleton entries)
  | .list items => .list (itemsSkeleton items)
  | .null => .null
  | .bool _ => .null
  | .int _ => .null
  | .float _ => .null
  | .str _ => .null

/-- The skeletons of the values of a mapping. -/
def entriesSkeleton : List (PyStr × JsonValue) → List (PyStr × JsonValue)
  | [] => []
  | (key, value) :: entries => (key, value.skeleton) :: entriesSkeleton entries

/-- The skeletons of the items of a list. -/
def itemsSkeleton : List JsonValue → List JsonValue
  | [] => []
  | item :: items => item.skeleton :: itemsSkeleton items

end

end JsonValue

/-- A key of a value: the names on the way to it, its own last, and what stands under it. -/
structure KeyAt where
  names : List PyStr
  key : PyStr
  value : JsonValue

namespace JsonValue

mutual

/-- Every key of a value once, in document order, behind the names on the way to it. -/
def keysFrom (names : List PyStr) : JsonValue → List KeyAt
  | .dict entries => entriesKeys names entries
  | .list items => itemsKeys names 0 items
  | .null => []
  | .bool _ => []
  | .int _ => []
  | .float _ => []
  | .str _ => []

/-- The keys of a mapping: each before those of its value. -/
def entriesKeys (names : List PyStr) : List (PyStr × JsonValue) → List KeyAt
  | [] => []
  | (key, value) :: entries =>
    ⟨names ++ [key], key, value⟩ :: (value.keysFrom (names ++ [key]) ++ entriesKeys names entries)

/-- The keys of a list, its items counted from an index. -/
def itemsKeys (names : List PyStr) (index : Nat) : List JsonValue → List KeyAt
  | [] => []
  | item :: items =>
    item.keysFrom (names ++ [ofString (toString index)]) ++ itemsKeys names (index + 1) items

end

end JsonValue

/-- A JSON value as a parser returns one: an object holds each key once. -/
structure JsonDocument where
  value : JsonValue
  keysDiffer : value.keysDiffer = true

/-- What a scan of a document has to be. -/
structure ScanLaw (rule : KeyRule) (scan : JsonValue → Except ValidationIssue Unit)
    (document : JsonDocument) : Prop where
  raises : (∃ issue, scan document.value = .error issue) ↔
    ∃ entries, .dict entries ∈ document.value.inside ∧ ∃ entry ∈ entries, rule.Forbids entry.1
  points : ∀ issue, scan document.value = .error issue →
    ∃ before first after, document.value.keysFrom [] = before ++ first :: after ∧
      (∀ k ∈ before, ¬ rule.Forbids k.key) ∧ rule.Forbids first.key ∧
      evaluate JsonValue.child document.value issue.instancePath = some first.value ∧
      tokensOf issue.instancePath = some first.names ∧
      first.names.getLast? = some first.key ∧
      issue.context = [(ofString "field_name", .str first.key)]
  blind : ∀ other : JsonDocument, other.value.skeleton = document.value.skeleton →
    scan other.value = scan document.value

/-! ## The first forbidden key -/

/-- What the first forbidden of some keys raises. -/
def raiseFirst (rule : KeyRule) (keys : List KeyAt) : Except ValidationIssue Unit :=
  match keys.find? (rule.Forbids ·.key) with
  | none => .ok ()
  | some first => .error (rule.issue (pointer first.names) first.key)

theorem raiseFirst_cons (rule : KeyRule) (k : KeyAt) (keys : List KeyAt) :
    raiseFirst rule (k :: keys) = (do
      require (¬ rule.Forbids k.key) (rule.issue (pointer k.names) k.key)
      raiseFirst rule keys) := by
  unfold raiseFirst require
  rw [List.find?_cons]
  by_cases hforbids : rule.Forbids k.key
  · rw [decide_eq_true hforbids, if_neg (not_not_intro hforbids)]
    rfl
  · rw [decide_eq_false hforbids, if_pos hforbids]
    rfl

theorem raiseFirst_append (rule : KeyRule) (keys later : List KeyAt) :
    raiseFirst rule (keys ++ later) = (do raiseFirst rule keys; raiseFirst rule later) := by
  unfold raiseFirst
  rw [List.find?_append]
  cases keys.find? (rule.Forbids ·.key) <;> rfl

mutual

/-- A scan raises at the first forbidden key. -/
theorem scanKeys_eq (rule : KeyRule) (names : List PyStr) :
    ∀ value : JsonValue, scanKeys rule (pointer names) value =
      raiseFirst rule (value.keysFrom names)
  | .dict entries => by rw [scanKeys, JsonValue.keysFrom, scanEntries_eq]
  | .list items => by rw [scanKeys, JsonValue.keysFrom, scanItems_eq]
  | .null => rfl
  | .bool _ => rfl
  | .int _ => rfl
  | .float _ => rfl
  | .str _ => rfl

theorem scanEntries_eq (rule : KeyRule) (names : List PyStr) :
    ∀ entries : List (PyStr × JsonValue), scanEntries rule (pointer names) entries =
      raiseFirst rule (JsonValue.entriesKeys names entries)
  | [] => rfl
  | (key, child) :: entries => by
    rw [scanEntries, JsonValue.entriesKeys, raiseFirst_cons, raiseFirst_append,
      ← scanEntries_eq rule names entries, ← scanKeys_eq rule (names ++ [key]) child,
      pointer_concat]

theorem scanItems_eq (rule : KeyRule) (names : List PyStr) (index : Nat) :
    ∀ items : List JsonValue, scanItems rule (pointer names) index items =
      raiseFirst rule (JsonValue.itemsKeys names index items)
  | [] => rfl
  | item :: items => by
    rw [scanItems, JsonValue.itemsKeys, raiseFirst_append,
      ← scanItems_eq rule names (index + 1) items,
      ← scanKeys_eq rule (names ++ [ofString (toString index)]) item, pointer_concat,
      escapeToken_index]

end

mutual

/-- The keys are those of the objects inside. -/
theorem JsonValue.exists_key_iff (P : PyStr → Prop) (names : List PyStr) :
    ∀ value : JsonValue, (∃ k ∈ value.keysFrom names, P k.key) ↔
      ∃ entries, .dict entries ∈ value.inside ∧ ∃ entry ∈ entries, P entry.1
  | .dict entries => by
    rw [keysFrom, inside, exists_entriesKey_iff P names entries]
    simp
  | .list items => by
    rw [keysFrom, inside, exists_itemsKey_iff P names 0 items]
    simp
  | .null => by simp [keysFrom, inside]
  | .bool _ => by simp [keysFrom, inside]
  | .int _ => by simp [keysFrom, inside]
  | .float _ => by simp [keysFrom, inside]
  | .str _ => by simp [keysFrom, inside]

theorem JsonValue.exists_entriesKey_iff (P : PyStr → Prop) (names : List PyStr) :
    ∀ entries : List (PyStr × JsonValue), (∃ k ∈ entriesKeys names entries, P k.key) ↔
      (∃ entry ∈ entries, P entry.1) ∨
        ∃ inner, .dict inner ∈ entriesInside entries ∧ ∃ entry ∈ inner, P entry.1
  | [] => by simp [entriesKeys, entriesInside]
  | (key, value) :: entries => by
    have hvalue := exists_key_iff P (names ++ [key]) value
    have hentries := exists_entriesKey_iff P names entries
    simp only [entriesKeys, entriesInside, List.mem_cons, List.mem_append, or_and_right,
      exists_or, exists_eq_left, hvalue, hentries]
    rw [or_assoc]
    exact or_congr_right or_left_comm

theorem JsonValue.exists_itemsKey_iff (P : PyStr → Prop) (names : List PyStr) (index : Nat) :
    ∀ items : List JsonValue, (∃ k ∈ itemsKeys names index items, P k.key) ↔
      ∃ inner, .dict inner ∈ itemsInside items ∧ ∃ entry ∈ inner, P entry.1
  | [] => by simp [itemsKeys, itemsInside]
  | item :: items => by
    have hitem := exists_key_iff P (names ++ [ofString (toString index)]) item
    have hitems := exists_itemsKey_iff P names (index + 1) items
    simp only [itemsKeys, itemsInside, List.mem_append, or_and_right, exists_or, hitem, hitems]

end

/-! ## Leaves -/

mutual

/-- A scan does not see the leaves. -/
theorem scanKeys_skeleton (rule : KeyRule) (path : PyStr) :
    ∀ value : JsonValue, scanKeys rule path value.skeleton = scanKeys rule path value
  | .dict entries => by
    rw [JsonValue.skeleton, scanKeys, scanKeys, scanEntries_skeleton rule path entries]
  | .list items => by
    rw [JsonValue.skeleton, scanKeys, scanKeys, scanItems_skeleton rule path 0 items]
  | .null => rfl
  | .bool _ => rfl
  | .int _ => rfl
  | .float _ => rfl
  | .str _ => rfl

theorem scanEntries_skeleton (rule : KeyRule) (path : PyStr) :
    ∀ entries : List (PyStr × JsonValue), scanEntries rule path (JsonValue.entriesSkeleton entries) =
      scanEntries rule path entries
  | [] => rfl
  | (key, child) :: entries => by
    rw [JsonValue.entriesSkeleton, scanEntries, scanEntries, scanEntries_skeleton rule path entries,
      scanKeys_skeleton rule _ child]

theorem scanItems_skeleton (rule : KeyRule) (path : PyStr) (index : Nat) :
    ∀ items : List JsonValue, scanItems rule path index (JsonValue.itemsSkeleton items) =
      scanItems rule path index items
  | [] => rfl
  | item :: items => by
    rw [JsonValue.itemsSkeleton, scanItems, scanItems,
      scanItems_skeleton rule path (index + 1) items, scanKeys_skeleton rule _ item]

end

/-! ## Where a key stands -/

/-- A key whose names continue those of the values on the way, and lead to its value. -/
structure KeyAt.Leads (k : KeyAt) (names : List PyStr) (value : JsonValue)
    (rest : List PyStr) : Prop where
  names_eq : k.names = names ++ rest
  last : rest.getLast? = some k.key
  reaches : rest.foldlM JsonValue.child value = some k.value

theorem KeyAt.Leads.step {k : KeyAt} {names rest : List PyStr} {name : PyStr}
    {value child : JsonValue} (h : k.Leads (names ++ [name]) child rest)
    (hchild : value.child name = some child) : k.Leads names value (name :: rest) where
  names_eq := by rw [h.names_eq, List.append_assoc, List.singleton_append]
  last := by
    have hne : rest ≠ [] := by
      rintro rfl
      cases h.last
    rw [List.getLast?_cons_of_ne_nil hne, h.last]
  reaches := by
    rw [List.foldlM_cons, hchild]
    exact h.reaches

mutual

/-- Every key is where its names say. -/
theorem JsonValue.keysFrom_leads (names : List PyStr) :
    ∀ value : JsonValue, value.keysDiffer = true → ∀ k ∈ value.keysFrom names,
      ∃ rest, k.Leads names value rest
  | .dict entries, hdiffer, k, hk => by
    rw [keysDiffer, Bool.and_eq_true, decide_eq_true_eq] at hdiffer
    refine entriesKeys_leads names entries (fun key value hmem => ?_) hdiffer.2 k hk
    -- the keys differ, so the first entry of a key is its only one
    exact (Table.find?_key_eq hdiffer.1).mpr hmem
  | .list items, hdiffer, k, hk => by
    rw [keysDiffer] at hdiffer
    refine itemsKeys_leads names 0 items (fun i item hitem => ?_) hdiffer k hk
    rw [child, Nat.zero_add, indexOf_ofString]
    exact hitem
  | .null, _, _, hk => nomatch hk
  | .bool _, _, _, hk => nomatch hk
  | .int _, _, _, hk => nomatch hk
  | .float _, _, _, hk => nomatch hk
  | .str _, _, _, hk => nomatch hk

theorem JsonValue.entriesKeys_leads (names : List PyStr) {whole : JsonValue} :
    ∀ entries : List (PyStr × JsonValue),
      (∀ key value, (key, value) ∈ entries → whole.child key = some value) →
      entriesDiffer entries = true → ∀ k ∈ entriesKeys names entries,
        ∃ rest, k.Leads names whole rest
  | [], _, _, _, hk => nomatch hk
  | (key, value) :: entries, hchild, hdiffer, k, hk => by
    rw [entriesDiffer, Bool.and_eq_true] at hdiffer
    rw [entriesKeys, List.mem_cons, List.mem_append] at hk
    have hvalue : whole.child key = some value := hchild key value List.mem_cons_self
    obtain rfl | hinside | hlater := hk
    · refine ⟨[key], rfl, rfl, ?_⟩
      rw [List.foldlM_cons, hvalue]
      rfl
    · obtain ⟨rest, hleads⟩ := keysFrom_leads (names ++ [key]) value hdiffer.1 k hinside
      exact ⟨key :: rest, hleads.step hvalue⟩
    · exact entriesKeys_leads names entries
        (fun key value hmem => hchild key value (List.mem_cons_of_mem _ hmem)) hdiffer.2 k hlater

theorem JsonValue.itemsKeys_leads (names : List PyStr) {whole : JsonValue} (index : Nat) :
    ∀ items : List JsonValue,
      (∀ (i : Nat) item, items[i]? = some item →
        whole.child (ofString (toString (index + i))) = some item) →
      itemsDiffer items = true → ∀ k ∈ itemsKeys names index items,
        ∃ rest, k.Leads names whole rest
  | [], _, _, _, hk => nomatch hk
  | item :: items, hchild, hdiffer, k, hk => by
    rw [itemsDiffer, Bool.and_eq_true] at hdiffer
    rw [itemsKeys, List.mem_append] at hk
    obtain hinside | hlater := hk
    · obtain ⟨rest, hleads⟩ := keysFrom_leads (names ++ [ofString (toString index)]) item
        hdiffer.1 k hinside
      exact ⟨_, hleads.step (hchild 0 item rfl)⟩
    · refine itemsKeys_leads names (index + 1) items (fun i next hnext => ?_) hdiffer.2 k hlater
      have hstep := hchild (i + 1) next (by rw [List.getElem?_cons_succ]; exact hnext)
      rwa [Nat.add_assoc, Nat.add_comm 1 i]

end

/-! ## The law -/

/-- What one scan raises, where it points, and what it does not see. -/
theorem scanLaw (rule : KeyRule) (document : JsonDocument) :
    ScanLaw rule (scanKeys rule []) document := by
  have hscan : ∀ value : JsonValue, scanKeys rule [] value = raiseFirst rule (value.keysFrom []) :=
    fun value => scanKeys_eq rule [] value
  constructor
  · -- it raises exactly when a key is forbidden
    rw [← JsonValue.exists_key_iff rule.Forbids [], hscan, raiseFirst]
    cases hfind : (document.value.keysFrom []).find? (rule.Forbids ·.key) with
    | none =>
      rw [List.find?_eq_none] at hfind
      refine iff_of_false (fun ⟨_, h⟩ => nomatch h) fun ⟨k, hk, hforbids⟩ => ?_
      exact hfind k hk (decide_eq_true hforbids)
    | some first =>
      exact iff_of_true ⟨_, rfl⟩ ⟨first, List.mem_of_find?_eq_some hfind,
        by simpa using List.find?_some hfind⟩
  · -- it points at the first of them, which is in the document
    intro issue hissue
    rw [hscan, raiseFirst] at hissue
    cases hfind : (document.value.keysFrom []).find? (rule.Forbids ·.key) with
    | none =>
      rw [hfind] at hissue
      cases hissue
    | some first =>
      rw [hfind] at hissue
      cases hissue
      obtain ⟨hforbids, before, after, hkeys, hbefore⟩ := List.find?_eq_some_iff_append.mp hfind
      obtain ⟨rest, hleads⟩ := document.value.keysFrom_leads [] document.keysDiffer first
        (List.mem_of_find?_eq_some hfind)
      have hnames : first.names = rest := hleads.names_eq
      refine ⟨before, first, after, hkeys, fun k hk => by simpa using hbefore k hk,
        of_decide_eq_true hforbids, ?_, tokensOf_pointer first.names, ?_, rfl⟩
      · rw [KeyRule.issue, evaluate_pointer, hnames]
        exact hleads.reaches
      · rw [hnames]
        exact hleads.last
  · -- it sees keys only
    intro other hskeleton
    rw [← scanKeys_skeleton rule [] other.value, hskeleton, scanKeys_skeleton]

/-- Both scans are exact, point at what they found, and are blind to the leaves. -/
theorem scans_exact (document : JsonDocument) :
    ScanLaw secretFields ensureNoSecretFields document ∧
      ScanLaw externalInstructions ensureExternalContentIsData document :=
  ⟨scanLaw secretFields document, scanLaw externalInstructions document⟩

end StockResearch.Contracts
