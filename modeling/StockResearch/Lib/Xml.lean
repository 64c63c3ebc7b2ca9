import Mathlib.Tactic.Common

/-!
# XML trees

The elements of a parsed XML text, as a tree that is walked from its root. Comments and
processing instructions are not part of it.

- `XmlName`, `XmlElement`: elements, with the text before their first child and the text
  that follows each child.
- `itertext`, `descendants`: all text, and all elements below one, in document order.
- `elements`, `find?`, `text?`: children by their tag.
- `outermost`: the elements below one that a test accepts, less those below another of them.
- `find?_descendants`: a search finds the first of them.
- `XmlScopes`: the prefixes that the elements declare; `lookup` finds the nearest declaration.
-/

namespace StockResearch

/-- A name and its namespace, which is empty if there is none. -/
structure XmlName where
  uri : String
  name : String
deriving DecidableEq

/-- An element: its tag, its attributes, its text, and its children with their tails. -/
inductive XmlElement where
  | node (tag : XmlName) (attributes : List (XmlName × String)) (text : String)
      (children : List (XmlElement × String))

namespace XmlElement

def tag : XmlElement → XmlName
  | node tag _ _ _ => tag

def attributes : XmlElement → List (XmlName × String)
  | node _ attributes _ _ => attributes

def text : XmlElement → String
  | node _ _ text _ => text

def children : XmlElement → List XmlElement
  | node _ _ _ children => children.map Prod.fst

/-- `element.get(name)` -/
def get (element : XmlElement) (name : XmlName) : Option String :=
  (element.attributes.find? (·.1 = name)).map Prod.snd

/-- `element.findall(tag)` -/
def elements (element : XmlElement) (tag : XmlName) : List XmlElement :=
  element.children.filter (·.tag = tag)

/-- `element.find(tag)` -/
def find? (element : XmlElement) (tag : XmlName) : Option XmlElement :=
  (element.elements tag).head?

/-- `element.findtext(tag)`; an element without text has the empty text. -/
def text? (element : XmlElement) (tag : XmlName) : Option String :=
  (element.find? tag).map (·.text)

mutual

/-- `element.itertext()`, joined. -/
def itertext : XmlElement → String
  | node _ _ text children => text ++ childrenText children

/-- The text of children and of their tails. -/
def childrenText : List (XmlElement × String) → String
  | [] => ""
  | (child, tail) :: children => child.itertext ++ tail ++ childrenText children

end

mutual

/-- `element.iter()`, without the element itself. -/
def descendants : XmlElement → List XmlElement
  | node _ _ _ children => childrenDescendants children

/-- The children and what is below them. -/
def childrenDescendants : List (XmlElement × String) → List XmlElement
  | [] => []
  | (child, _) :: children => child :: (child.descendants ++ childrenDescendants children)

end

/-- `element.iter()` -/
def iter (element : XmlElement) : List XmlElement := element :: element.descendants

mutual

/-- The element if the test accepts it, or else the outermost ones below it. -/
def outermostOf (test : XmlElement → Bool) : XmlElement → List XmlElement
  | node tag attributes text children =>
    if test (node tag attributes text children) then [node tag attributes text children]
    else childrenOutermost test children

/-- The outermost elements among children, and below them. -/
def childrenOutermost (test : XmlElement → Bool) : List (XmlElement × String) → List XmlElement
  | [] => []
  | (child, _) :: children => child.outermostOf test ++ childrenOutermost test children

end

/-- The outermost elements below one that a test accepts, in document order. -/
def outermost (test : XmlElement → Bool) : XmlElement → List XmlElement
  | node _ _ _ children => childrenOutermost test children

theorem descendants_eq (element : XmlElement) :
    element.descendants = element.children.flatMap iter := by
  obtain ⟨tag, attributes, text, children⟩ := element
  show childrenDescendants children = (children.map Prod.fst).flatMap iter
  induction children with
  | nil => rfl
  | cons child children ih =>
    obtain ⟨child, tail⟩ := child
    rw [childrenDescendants, ih, List.map_cons, List.flatMap_cons]
    rfl

mutual

theorem find?_iter (test : XmlElement → Bool) :
    ∀ element : XmlElement, element.iter.find? test = (element.outermostOf test).head?
  | node tag attributes text children => by
    rw [iter, outermostOf, descendants]
    cases htest : test (node tag attributes text children) with
    | true => rw [List.find?_cons_of_pos htest, if_pos rfl, List.head?_cons]
    | false =>
      rw [List.find?_cons_of_neg (by simp [htest]), if_neg Bool.false_ne_true,
        find?_childrenDescendants test children]

theorem find?_childrenDescendants (test : XmlElement → Bool) :
    ∀ children : List (XmlElement × String),
      (childrenDescendants children).find? test = (childrenOutermost test children).head?
  | [] => rfl
  | (child, _) :: children => by
    rw [childrenDescendants, childrenOutermost, List.head?_append, ← find?_iter test child,
      ← find?_childrenDescendants test children, ← List.find?_append]
    rfl

end

/-- A search below an element finds the first of the outermost ones. -/
theorem find?_descendants (test : XmlElement → Bool) (element : XmlElement) :
    element.descendants.find? test = (element.outermost test).head? := by
  obtain ⟨tag, attributes, text, children⟩ := element
  exact find?_childrenDescendants test children

end XmlElement

/-! ## Prefixes -/

/-- The prefixes that an element declares, each with its namespace, and those of its children.
They are no attributes, and no part of the tree of elements. -/
inductive XmlScopes where
  | node (declared : List (String × String)) (children : List XmlScopes)

namespace XmlScopes

mutual

/-- All declarations, in document order. -/
def declarations : XmlScopes → List (String × String)
  | node declared children => declared ++ childrenDeclarations children

/-- The declarations of children and of what is below them. -/
def childrenDeclarations : List XmlScopes → List (String × String)
  | [] => []
  | child :: children => child.declarations ++ childrenDeclarations children

end

/-- The namespace of a prefix at the element that a path of child numbers leads to: the one
that the nearest element around it declares, itself included. -/
def lookup : XmlScopes → List Nat → String → Option String
  | node declared _, [], label => (declared.find? (·.1 = label)).map Prod.snd
  | node declared children, place :: path, label =>
    (children[place]?.bind fun child => child.lookup path label).or
      ((declared.find? (·.1 = label)).map Prod.snd)

theorem mem_childrenDeclarations {declaration : String × String} {children : List XmlScopes} :
    declaration ∈ childrenDeclarations children ↔
      ∃ child ∈ children, declaration ∈ child.declarations := by
  induction children with
  | nil => simp [childrenDeclarations]
  | cons child children ih => simp [childrenDeclarations, ih]

theorem mem_of_find?_label {declared : List (String × String)} {label uri : String}
    (h : (declared.find? (·.1 = label)).map Prod.snd = some uri) : (label, uri) ∈ declared := by
  obtain ⟨declaration, hfound, rfl⟩ := Option.map_eq_some_iff.mp h
  obtain rfl : declaration.1 = label := by simpa using List.find?_some hfound
  exact List.mem_of_find?_eq_some hfound

/-- A prefix in scope is declared somewhere. -/
theorem mem_declarations_of_lookup {scopes : XmlScopes} {path : List Nat} {label uri : String}
    (h : scopes.lookup path label = some uri) : (label, uri) ∈ scopes.declarations := by
  induction path generalizing scopes with
  | nil =>
    obtain ⟨declared, children⟩ := scopes
    rw [lookup] at h
    rw [declarations]
    exact List.mem_append_left _ (mem_of_find?_label h)
  | cons place path ih =>
    obtain ⟨declared, children⟩ := scopes
    rw [lookup, Option.or_eq_some_iff] at h
    rw [declarations]
    rcases h with hbelow | ⟨-, hhere⟩
    · obtain ⟨child, hchild, hlookup⟩ := Option.bind_eq_some_iff.mp hbelow
      exact List.mem_append_right _
        (mem_childrenDeclarations.mpr ⟨child, List.mem_of_getElem? hchild, ih hlookup⟩)
    · exact List.mem_append_left _ (mem_of_find?_label hhere)

end XmlScopes

end StockResearch
