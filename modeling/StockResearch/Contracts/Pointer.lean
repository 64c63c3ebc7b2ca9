import StockResearch.Contracts.Values

/-!
# JSON Pointers

A pointer is a text of reference tokens, each behind a slash, in which `~0` stands for a
tilde and `~1` for a slash. It is evaluated step by step in any type of values whose
children are named by tokens.

- `escapeToken`, `pointer`: the pointer of a list of names.
- `unescapeToken`, `tokensOf`: the names of a pointer.
- `evaluate`: the value a pointer reaches.
- `tokensOf_pointer`: what is escaped is read back, whatever the names hold.
-/

namespace StockResearch.Contracts

open PyStr (ofString ofChar)

/-! ## Tokens -/

/-- `value.replace("~", "~0").replace("/", "~1")` -/
def escapeToken (value : PyStr) : PyStr :=
  PyStr.replace (PyStr.replace value '~' "~0") '/' "~1"

/-- The pointer of a list of names. -/
def pointer (names : List PyStr) : PyStr :=
  names.flatMap fun name => ofString "/" ++ escapeToken name

/-- A text in which two neighbours are replaced by one character. -/
def replaceTwo (first second new : Char) : PyStr → PyStr
  | [] => []
  | [c] => [c]
  | c :: d :: rest =>
    if c = ofChar first ∧ d = ofChar second then ofChar new :: replaceTwo first second new rest
    else c :: replaceTwo first second new (d :: rest)

/-- A reference token: every tilde is escaped. -/
def isToken : PyStr → Bool
  | [] => true
  | [c] => c ≠ ofChar '~'
  | c :: d :: rest =>
    if c = ofChar '~' then (d = ofChar '0' ∨ d = ofChar '1') && isToken rest
    else isToken (d :: rest)

/-- The name of a token: first the slashes, then the tildes. -/
def unescapeToken (token : PyStr) : PyStr :=
  replaceTwo '~' '0' '~' (replaceTwo '~' '1' '/' token)

/-- The names of a pointer; none if the text is no pointer. -/
def tokensOf : PyStr → Option (List PyStr)
  | [] => some []
  | c :: rest =>
    let parts := rest.splitOn (ofChar '/')
    if c = ofChar '/' ∧ parts.all isToken then some (parts.map unescapeToken) else none

/-- The value a pointer reaches, for values whose children have names. -/
def evaluate {V : Type} (child : V → PyStr → Option V) (value : V) (text : PyStr) : Option V := do
  (← tokensOf text).foldlM child value

/-- The number of an array index: digits, and none too many in front. -/
def indexOf (name : PyStr) : Option Nat := do
  let text ← name.decode?
  let index := Nat.ofDigitChars 10 text.toList 0
  if text = toString index then some index else none

/-! ## What is escaped is read back -/

/-- The escaped form of one code point. -/
def escapeChar (c : Fin 0x110000) : PyStr :=
  if c = ofChar '~' then ofString "~0" else if c = ofChar '/' then ofString "~1" else [c]

theorem escapeToken_eq_flatMap (value : PyStr) : escapeToken value = value.flatMap escapeChar := by
  rw [escapeToken, PyStr.replace, PyStr.replace, List.flatMap_assoc]
  refine congrArg (fun f => List.flatMap f value) (funext fun c => ?_)
  unfold escapeChar
  by_cases htilde : c = ofChar '~'
  · rw [if_pos htilde, if_pos htilde]
    decide
  · rw [if_neg htilde, if_neg htilde]
    simp

theorem escapeToken_cons (c : Fin 0x110000) (value : PyStr) :
    escapeToken (c :: value) = escapeChar c ++ escapeToken value := by
  simp only [escapeToken_eq_flatMap, List.flatMap_cons]

/-- A code point that neither pass of the unescaping touches. -/
theorem replaceTwo_cons_of_ne {first second new : Char} {c : Fin 0x110000} {rest : PyStr}
    (h : c ≠ ofChar first) :
    replaceTwo first second new (c :: rest) = c :: replaceTwo first second new rest := by
  cases rest with
  | nil => rfl
  | cons d rest => rw [replaceTwo, if_neg fun both => h both.1]

theorem replaceTwo_pair {first second new : Char} {rest : PyStr} :
    replaceTwo first second new (ofChar first :: ofChar second :: rest) =
      ofChar new :: replaceTwo first second new rest := by
  rw [replaceTwo, if_pos ⟨rfl, rfl⟩]

/-- The first pass leaves the escaped tildes. -/
theorem replaceTwo_escapeToken (value : PyStr) :
    replaceTwo '~' '1' '/' (escapeToken value) = PyStr.replace value '~' "~0" := by
  induction value with
  | nil => rfl
  | cons c value ih =>
    rw [escapeToken_cons, escapeChar, PyStr.replace, List.flatMap_cons, ← PyStr.replace]
    by_cases htilde : c = ofChar '~'
    · rw [if_pos htilde, if_pos htilde, ← ih]
      show replaceTwo '~' '1' '/' (ofChar '~' :: ofChar '0' :: escapeToken value) = _
      rw [replaceTwo, if_neg fun both => absurd both.2 (by decide),
        replaceTwo_cons_of_ne (by decide)]
      rfl
    · rw [if_neg htilde, if_neg htilde]
      by_cases hslash : c = ofChar '/'
      · rw [if_pos hslash, hslash, ← ih]
        exact replaceTwo_pair
      · rw [if_neg hslash, ← ih]
        exact replaceTwo_cons_of_ne htilde

/-- The second pass restores them. -/
theorem replaceTwo_replace (value : PyStr) :
    replaceTwo '~' '0' '~' (PyStr.replace value '~' "~0") = value := by
  induction value with
  | nil => rfl
  | cons c value ih =>
    rw [PyStr.replace, List.flatMap_cons, ← PyStr.replace]
    by_cases htilde : c = ofChar '~'
    · rw [if_pos htilde, htilde]
      exact replaceTwo_pair.trans (congrArg (ofChar '~' :: ·) ih)
    · rw [if_neg htilde]
      exact (replaceTwo_cons_of_ne htilde).trans (congrArg (c :: ·) ih)

theorem unescapeToken_escapeToken (value : PyStr) : unescapeToken (escapeToken value) = value := by
  rw [unescapeToken, replaceTwo_escapeToken, replaceTwo_replace]

theorem isToken_escapeToken (value : PyStr) : isToken (escapeToken value) = true := by
  induction value with
  | nil => rfl
  | cons c value ih =>
    have hplain : ∀ {d : Fin 0x110000} {rest : PyStr}, d ≠ ofChar '~' →
        isToken (d :: rest) = isToken rest := by
      intro d rest hd
      cases rest with
      | nil => simp [isToken, hd]
      | cons e rest => rw [isToken, if_neg hd]
    rw [escapeToken_cons, escapeChar]
    split
    · show isToken (ofChar '~' :: ofChar '0' :: escapeToken value) = true
      rw [isToken, if_pos rfl, ih]
      rfl
    · rename_i htilde
      split
      · show isToken (ofChar '~' :: ofChar '1' :: escapeToken value) = true
        rw [isToken, if_pos rfl, ih]
        rfl
      · exact (hplain htilde).trans ih

/-- No escaped name holds a slash. -/
theorem slash_not_mem_escapeToken (value : PyStr) : ofChar '/' ∉ escapeToken value := by
  rw [escapeToken_eq_flatMap, List.mem_flatMap]
  rintro ⟨c, -, hmem⟩
  unfold escapeChar at hmem
  split at hmem
  · exact absurd hmem (by decide)
  · split at hmem
    · exact absurd hmem (by decide)
    · rename_i hslash
      exact hslash (List.mem_singleton.mp hmem).symm

theorem pointer_cons (name : PyStr) (names : List PyStr) : pointer (name :: names) =
    ofChar '/' :: [ofChar '/'].intercalate ((name :: names).map escapeToken) := by
  induction names generalizing name with
  | nil => simp [pointer, ofString, List.intercalate]
  | cons next names ih =>
    have hstep : pointer (name :: next :: names) =
        ofChar '/' :: (escapeToken name ++ pointer (next :: names)) := rfl
    rw [hstep, ih]
    simp [List.intercalate]

/-- A pointer names what it was made of. -/
theorem tokensOf_pointer (names : List PyStr) : tokensOf (pointer names) = some names := by
  cases names with
  | nil => rfl
  | cons name names =>
    have hparts : ([ofChar '/'].intercalate ((name :: names).map escapeToken)).splitOn
        (ofChar '/') = (name :: names).map escapeToken :=
      List.splitOn_intercalate (ofChar '/') (fun part hpart => by
        obtain ⟨value, -, rfl⟩ := List.mem_map.mp hpart
        exact slash_not_mem_escapeToken value) (by simp)
    have htokens : ((name :: names).map escapeToken).all isToken = true := by
      rw [List.all_map]
      exact List.all_eq_true.mpr fun value _ => isToken_escapeToken value
    rw [pointer_cons, tokensOf, hparts, if_pos ⟨rfl, htokens⟩, List.map_map]
    refine congrArg some ((List.map_congr_left fun value _ => ?_).trans (List.map_id _))
    exact unescapeToken_escapeToken value

theorem evaluate_pointer {V : Type} {child : V → PyStr → Option V} {value : V}
    {names : List PyStr} : evaluate child value (pointer names) = names.foldlM child value := by
  rw [evaluate, tokensOf_pointer]
  rfl

theorem pointer_concat (names : List PyStr) (name : PyStr) :
    pointer (names ++ [name]) = pointer names ++ (ofString "/" ++ escapeToken name) := by
  simp [pointer]

/-! ## The text of a pointer -/

theorem decode?_isSome_iff {text : PyStr} :
    text.decode?.isSome ↔ ∀ c ∈ text, (PyStr.toChar? c).isSome := by
  rw [PyStr.decode?, Option.isSome_map]
  induction text with
  | nil => simp
  | cons c text ih =>
    rw [List.mapM_cons, List.forall_mem_cons, ← ih]
    cases PyStr.toChar? c with
    | none => simp
    | some first => cases text.mapM PyStr.toChar? <;> simp

theorem toChar?_isSome_ofString {text : String} :
    ∀ c ∈ ofString text, (PyStr.toChar? c).isSome := by
  rintro c hc
  obtain ⟨char, -, rfl⟩ := List.mem_map.mp hc
  rw [PyStr.toChar?_ofChar]
  rfl

theorem ofChar_of_toChar? {c : Fin 0x110000} {char : Char} (h : PyStr.toChar? c = some char) :
    ofChar char = c := by
  unfold PyStr.toChar? at h
  split at h
  · rename_i hvalid
    cases h
    refine Fin.ext ?_
    show (Char.ofNat c.val).toNat = c.val
    rw [Char.ofNat, dif_pos hvalid]
    rfl
  · cases h

/-- A text that is read is the text that was written. -/
theorem ofString_of_decode? {text : PyStr} {decoded : String} (h : text.decode? = some decoded) :
    ofString decoded = text := by
  obtain ⟨chars, hchars, rfl⟩ := Option.map_eq_some_iff.mp h
  clear h
  rw [ofString, String.toList_ofList]
  induction text generalizing chars with
  | nil =>
    cases hchars
    rfl
  | cons c text ih =>
    simp only [List.mapM_cons, Option.bind_eq_bind, Option.bind_eq_some_iff] at hchars
    obtain ⟨char, hchar, rest, hrest, heq⟩ := hchars
    cases heq
    rw [List.map_cons, ofChar_of_toChar? hchar, ih rest hrest]

/-- A pointer is Unicode text if all its names are. -/
theorem decode?_pointer_isSome_iff {names : List PyStr} :
    (pointer names).decode?.isSome ↔ ∀ name ∈ names, name.decode?.isSome := by
  have hescape : ∀ c : Fin 0x110000,
      (∀ d ∈ escapeChar c, (PyStr.toChar? d).isSome) ↔ (PyStr.toChar? c).isSome := by
    intro c
    unfold escapeChar
    split
    · rename_i heq
      exact iff_of_true toChar?_isSome_ofString (by rw [heq, PyStr.toChar?_ofChar]; rfl)
    · split
      · rename_i heq
        exact iff_of_true toChar?_isSome_ofString (by rw [heq, PyStr.toChar?_ofChar]; rfl)
      · exact List.forall_mem_singleton
  have hname : ∀ name : PyStr, (∀ c ∈ ofString "/" ++ escapeToken name, (PyStr.toChar? c).isSome) ↔
      name.decode?.isSome := by
    intro name
    rw [decode?_isSome_iff, List.forall_mem_append, escapeToken_eq_flatMap, List.forall_mem_flatMap]
    exact (and_iff_right toChar?_isSome_ofString).trans (forall₂_congr fun c _ => hescape c)
  rw [decode?_isSome_iff, pointer, List.forall_mem_flatMap]
  exact forall₂_congr fun name _ => hname name

/-! ## Indexes -/

@[simp] theorem indexOf_ofString (index : Nat) :
    indexOf (ofString (toString index)) = some index := by
  have hread : Nat.ofDigitChars 10 (toString index).toList 0 = index := by
    rw [Nat.toString_eq_ofList_toDigits, String.toList_ofList, Nat.ofDigitChars_ten_toDigits]
  rw [indexOf, PyStr.decode?_ofString]
  show (if toString index = toString (Nat.ofDigitChars 10 (toString index).toList 0) then
    some (Nat.ofDigitChars 10 (toString index).toList 0) else none) = some index
  rw [hread, if_pos rfl]

/-- A text without tildes and slashes is its own token. -/
theorem escapeToken_of_plain {text : String} (h : ∀ c ∈ text.toList, c ≠ '~' ∧ c ≠ '/') :
    escapeToken (ofString text) = ofString text := by
  have hinjective : ∀ {c d : Char}, PyStr.ofChar c = PyStr.ofChar d → c = d := by
    intro c d heq
    have hchars := congrArg PyStr.toChar? heq
    rw [PyStr.toChar?_ofChar, PyStr.toChar?_ofChar] at hchars
    exact Option.some.inj hchars
  rw [escapeToken_eq_flatMap, ofString, List.flatMap_map]
  refine Eq.trans ?_ (List.map_eq_flatMap).symm
  refine congrArg List.flatten (List.map_congr_left fun c hc => ?_)
  rw [escapeChar, if_neg fun heq => (h c hc).1 (hinjective heq),
    if_neg fun heq => (h c hc).2 (hinjective heq)]

theorem escapeToken_index (index : Nat) :
    escapeToken (ofString (toString index)) = ofString (toString index) := by
  refine escapeToken_of_plain fun c hc => ?_
  rw [Nat.toString_eq_ofList_toDigits, String.toList_ofList] at hc
  have hdigit : c.isDigit = true := Nat.isDigit_of_mem_toDigits (by decide) (by decide) hc
  constructor
  · rintro rfl
    exact absurd hdigit (by decide)
  · rintro rfl
    exact absurd hdigit (by decide)

end StockResearch.Contracts
