import Mathlib.Tactic.Common

/-!
# Programs that can stop at any step

A program over a durable state `σ`, made of named steps. Each step is atomic, and
what happens at it is an event: it proceeds, it raises (before or after its effect
took place), or the process stops there and only the state is left. Exceptions reach
the handlers of `tryExcept` and `onRaise`; a stop reaches none.

- `Proc`: the programs, a monad; `Proc.step`, `Proc.action` and `Proc.read` are its steps.
- `Proc.Triple`: from states with `pre`, the program returns into `post`, raises into
  `exc`, or stops in a state with `inv`. One rule for each construct.
- `Proc.Certain`, `Proc.Fails`: a program that returns, or raises, unless something happens
  at a step of it.
- `Proc.Keeps`: the special case of one invariant for all of them.
- `Proc.beside`, `Proc.Projects`: a program beside a memory it does not see, and programs
  that agree but for that memory.
-/

namespace StockResearch

universe u

/-- What happens at one step. -/
inductive Event (ε : Type u) where
  | proceeds
  /-- It raises `e`; `applied` tells whether its effect took place. -/
  | raises (e : ε) (applied : Bool)
  /-- The process stops before the step. -/
  | crashes
deriving DecidableEq

/-- How a program ends. -/
inductive Outcome (ε : Type u) (α : Type u) where
  | ok (a : α)
  | raised (e : ε)
  | crashed
deriving DecidableEq

/-- A program with steps named by `π`, exceptions `ε` and durable state `σ`. -/
def Proc (π ε σ α : Type) : Type := (π → Event ε) → σ → Outcome ε α × σ

namespace Proc

variable {π ε σ α β : Type}

/-! ## Constructs -/

instance : Monad (Proc π ε σ) where
  pure a := fun _ s => (.ok a, s)
  bind m f := fun ev s =>
    match m ev s with
    | (.ok a, t) => f a ev t
    | (.raised e, t) => (.raised e, t)
    | (.crashed, t) => (.crashed, t)

/-- `raise e` -/
def raise (e : ε) : Proc π ε σ α := fun _ s => (.raised e, s)

/-- A computed value, or the exception computing it raises. -/
def ofExcept (x : Except ε α) : Proc π ε σ α :=
  match x with
  | .ok a => pure a
  | .error e => raise e

/-- One atomic step. -/
def step (point : π) (f : σ → Except ε (α × σ)) : Proc π ε σ α := fun ev s =>
  match ev point with
  | .crashes => (.crashed, s)
  | .raises e applied =>
    match applied, f s with
    | true, .ok (_, t) => (.raised e, t)
    | _, _ => (.raised e, s)
  | .proceeds =>
    match f s with
    | .ok (a, t) => (.ok a, t)
    | .error e => (.raised e, s)

/-- An atomic step that raises only without its effect, as a system call does. -/
def action (point : π) (f : σ → Except ε (α × σ)) : Proc π ε σ α := fun ev s =>
  match ev point with
  | .crashes => (.crashed, s)
  | .raises e _ => (.raised e, s)
  | .proceeds =>
    match f s with
    | .ok (a, t) => (.ok a, t)
    | .error e => (.raised e, s)

/-- A step that leaves the state alone. -/
def read (point : π) (f : σ → Except ε α) : Proc π ε σ α :=
  action point fun s => (f s).map fun a => (a, s)

/-- `try: body except …: handler`; the handler decides which exceptions it takes. -/
def tryExcept (body : Proc π ε σ α) (handler : ε → Proc π ε σ α) : Proc π ε σ α := fun ev s =>
  match body ev s with
  | (.raised e, t) => handler e ev t
  | other => other

/-- `try: body finally: cleanup`, for a cleanup that does nothing after a body that
returns. An exception of the cleanup replaces the one it follows. -/
def onRaise (body : Proc π ε σ α) (cleanup : Proc π ε σ Unit) : Proc π ε σ α :=
  tryExcept body fun e => do cleanup; raise e

/-- A change that nothing stops: one of memory. -/
def modify (f : σ → σ) : Proc π ε σ Unit := fun _ s => (.ok (), f s)

/-- A look at the state that nothing stops: one at memory. -/
def memory (f : σ → α) : Proc π ε σ α := fun _ s => (.ok (f s), s)

/-- A program on the first part of the state. -/
def beside {μ : Type} (m : Proc π ε σ α) : Proc π ε (σ × μ) α := fun ev s =>
  ((m ev s.1).1, (m ev s.1).2, s.2)

section

variable {ev : π → Event ε} {s t : σ}

theorem bind_of_ok {m : Proc π ε σ α} {f : α → Proc π ε σ β} {a : α} (h : m ev s = (.ok a, t)) :
    (m >>= f) ev s = f a ev t := by
  show (match m ev s with
    | (.ok a, t) => f a ev t
    | (.raised e, t) => (.raised e, t)
    | (.crashed, t) => (.crashed, t)) = _
  rw [h]

theorem bind_of_raised {m : Proc π ε σ α} {f : α → Proc π ε σ β} {e : ε}
    (h : m ev s = (.raised e, t)) : (m >>= f) ev s = (.raised e, t) := by
  show (match m ev s with
    | (.ok a, t) => f a ev t
    | (.raised e, t) => (.raised e, t)
    | (.crashed, t) => (.crashed, t)) = _
  rw [h]

theorem bind_of_crashed {m : Proc π ε σ α} {f : α → Proc π ε σ β}
    (h : m ev s = (.crashed, t)) : (m >>= f) ev s = (.crashed, t) := by
  show (match m ev s with
    | (.ok a, t) => f a ev t
    | (.raised e, t) => (.raised e, t)
    | (.crashed, t) => (.crashed, t)) = _
  rw [h]

theorem bind_assoc {γ : Type} (m : Proc π ε σ α) (f : α → Proc π ε σ β) (g : β → Proc π ε σ γ) :
    m >>= f >>= g = m >>= fun a => f a >>= g := by
  funext ev s
  match hout : m ev s with
  | (.ok a, t) =>
    rw [bind_of_ok hout]
    cases hf : f a ev t with
    | mk out u =>
      cases out with
      | ok b => rw [bind_of_ok hf, bind_of_ok ((bind_of_ok hout).trans hf)]
      | raised e => rw [bind_of_raised hf, bind_of_raised ((bind_of_ok hout).trans hf)]
      | crashed => rw [bind_of_crashed hf, bind_of_crashed ((bind_of_ok hout).trans hf)]
  | (.raised e, t) => rw [bind_of_raised hout, bind_of_raised (bind_of_raised hout)]
  | (.crashed, t) => rw [bind_of_crashed hout, bind_of_crashed (bind_of_crashed hout)]

theorem ofExcept_of_ok {x : Except ε α} {a : α} (h : x = .ok a) :
    (ofExcept x : Proc π ε σ α) ev s = (.ok a, s) := by
  rw [h]
  rfl

theorem read_of_ok {point : π} {f : σ → Except ε α} {a : α} (hev : ev point = .proceeds)
    (h : f s = .ok a) : read point f ev s = (.ok a, s) := by
  unfold read action
  rw [hev]
  simp only [h, Except.map]

end

/-! ## Triples -/

/-- The end of a program, judged by how it came about. -/
def Ends (inv : σ → Prop) (post : α → σ → Prop) (exc : ε → σ → Prop) : Outcome ε α × σ → Prop
  | (.ok a, t) => post a t
  | (.raised e, t) => exc e t
  | (.crashed, t) => inv t

/-- From states with `pre`, under the events `ev`. -/
def Triple (ev : π → Event ε) (inv pre : σ → Prop) (m : Proc π ε σ α) (post : α → σ → Prop)
    (exc : ε → σ → Prop) : Prop :=
  ∀ s, pre s → Ends inv post exc (m ev s)

namespace Triple

variable {ev : π → Event ε} {inv pre : σ → Prop} {post : α → σ → Prop} {exc : ε → σ → Prop}

theorem pure {a : α} (h : ∀ s, pre s → post a s) :
    Triple ev inv pre (pure a : Proc π ε σ α) post exc := h

theorem raise {e : ε} (h : ∀ s, pre s → exc e s) :
    Triple ev inv pre (raise e : Proc π ε σ α) post exc := h

theorem ofExcept {x : Except ε α} (hok : ∀ a s, x = .ok a → pre s → post a s)
    (herror : ∀ e s, x = .error e → pre s → exc e s) :
    Triple ev inv pre (ofExcept x) post exc := by
  cases x with
  | ok a => exact fun s hs => hok a s rfl hs
  | error e => exact fun s hs => herror e s rfl hs

theorem bind {m : Proc π ε σ α} {f : α → Proc π ε σ β} {post : β → σ → Prop}
    {M : α → σ → Prop} (hm : Triple ev inv pre m M exc)
    (hf : ∀ a, Triple ev inv (M a) (f a) post exc) : Triple ev inv pre (m >>= f) post exc := by
  intro s hs
  have h := hm s hs
  show Ends inv post exc (match m ev s with
    | (.ok a, t) => f a ev t
    | (.raised e, t) => (.raised e, t)
    | (.crashed, t) => (.crashed, t))
  match hout : m ev s, h with
  | (.ok a, t), h => exact hf a t h
  | (.raised e, t), h => exact h
  | (.crashed, t), h => exact h

/-- Nothing follows a program that never returns. -/
theorem never {m : Proc π ε σ α} {f : α → Proc π ε σ β} {post : β → σ → Prop}
    (h : Triple ev inv pre m (fun _ _ => False) exc) : Triple ev inv pre (m >>= f) post exc :=
  bind h fun _ _ hfalse => hfalse.elim

/-- A step, with what the events say about it. -/
theorem step_event {point : π} {f : σ → Except ε (α × σ)} (hcrash : ∀ s, pre s → inv s)
    (hok : ev point = .proceeds → ∀ s a t, pre s → f s = .ok (a, t) → post a t)
    (hraise : ∀ s e, pre s → exc e s)
    (happlied : ∀ e, ev point = .raises e true → ∀ s a t, pre s → f s = .ok (a, t) → exc e t) :
    Triple ev inv pre (step point f) post exc := by
  intro s hs
  unfold Proc.step
  cases hev : ev point with
  | crashes => exact hcrash s hs
  | raises e applied =>
    cases applied with
    | false => exact hraise s e hs
    | true =>
      cases hf : f s with
      | error e' => exact hraise s e hs
      | ok r => exact happlied e hev s r.1 r.2 hs hf
  | proceeds =>
    cases hf : f s with
    | error e => exact hraise s e hs
    | ok r => exact hok hev s r.1 r.2 hs hf

theorem action_event {point : π} {f : σ → Except ε (α × σ)} (hcrash : ∀ s, pre s → inv s)
    (hok : ev point = .proceeds → ∀ s a t, pre s → f s = .ok (a, t) → post a t)
    (hraise : ∀ s e, pre s → exc e s) : Triple ev inv pre (action point f) post exc := by
  intro s hs
  unfold Proc.action
  cases hev : ev point with
  | crashes => exact hcrash s hs
  | raises e applied => exact hraise s e hs
  | proceeds =>
    cases hf : f s with
    | error e => exact hraise s e hs
    | ok r => exact hok hev s r.1 r.2 hs hf

theorem action {point : π} {f : σ → Except ε (α × σ)} (hcrash : ∀ s, pre s → inv s)
    (hok : ∀ s a t, pre s → f s = .ok (a, t) → post a t) (hraise : ∀ s e, pre s → exc e s) :
    Triple ev inv pre (action point f) post exc :=
  action_event hcrash (fun _ => hok) hraise

/-- A step that the events let proceed. -/
theorem step_proceeds {point : π} {f : σ → Except ε (α × σ)} (hev : ev point = .proceeds)
    (hok : ∀ s, pre s → ∃ a t, f s = .ok (a, t) ∧ post a t) :
    Triple ev inv pre (Proc.step point f) post exc := by
  intro s hs
  obtain ⟨a, t, hf, ht⟩ := hok s hs
  unfold Proc.step
  rw [hev]
  simp only [hf]
  exact ht

/-- A step before which the process stops. -/
theorem step_crashes {point : π} {f : σ → Except ε (α × σ)} (hev : ev point = .crashes)
    (h : ∀ s, pre s → inv s) : Triple ev inv pre (Proc.step point f) post exc := by
  intro s hs
  unfold Proc.step
  rw [hev]
  exact h s hs

theorem action_proceeds {point : π} {f : σ → Except ε (α × σ)} (hev : ev point = .proceeds)
    (hok : ∀ s, pre s → ∃ a t, f s = .ok (a, t) ∧ post a t) :
    Triple ev inv pre (Proc.action point f) post exc := by
  intro s hs
  obtain ⟨a, t, hf, ht⟩ := hok s hs
  unfold Proc.action
  rw [hev]
  simp only [hf]
  exact ht

theorem read {point : π} {f : σ → Except ε α} (hcrash : ∀ s, pre s → inv s)
    (hok : ∀ s a, pre s → f s = .ok a → post a s) (hraise : ∀ s e, pre s → exc e s) :
    Triple ev inv pre (read point f) post exc := by
  refine action hcrash ?_ hraise
  intro s a t hs h
  cases hf : f s with
  | error e =>
    rw [hf] at h
    cases h
  | ok b =>
    rw [hf] at h
    cases h
    exact hok _ _ hs hf

theorem read_proceeds {point : π} {f : σ → Except ε α} (hev : ev point = .proceeds)
    (hok : ∀ s, pre s → ∃ a, f s = .ok a ∧ post a s) :
    Triple ev inv pre (Proc.read point f) post exc := by
  refine action_proceeds hev fun s hs => ?_
  obtain ⟨a, hf, ha⟩ := hok s hs
  exact ⟨a, s, by rw [hf]; rfl, ha⟩

theorem tryExcept {body : Proc π ε σ α} {handler : ε → Proc π ε σ α} {M : ε → σ → Prop}
    (hbody : Triple ev inv pre body post M)
    (hhandler : ∀ e, Triple ev inv (M e) (handler e) post exc) :
    Triple ev inv pre (tryExcept body handler) post exc := by
  intro s hs
  have h := hbody s hs
  unfold Proc.tryExcept
  match hout : body ev s, h with
  | (.ok a, t), h => exact h
  | (.raised e, t), h => exact hhandler e t h
  | (.crashed, t), h => exact h

theorem onRaise {body : Proc π ε σ α} {cleanup : Proc π ε σ Unit} {M : ε → σ → Prop}
    (hbody : Triple ev inv pre body post M)
    (hcleanup : ∀ e, Triple ev inv (M e) cleanup (fun _ => exc e) exc) :
    Triple ev inv pre (onRaise body cleanup) post exc :=
  tryExcept hbody fun e => bind (hcleanup e) fun _ => raise fun _ h => h

theorem weaken {m : Proc π ε σ α} {inv' pre' : σ → Prop} {post' : α → σ → Prop}
    {exc' : ε → σ → Prop} (h : Triple ev inv pre m post exc) (hpre : ∀ s, pre' s → pre s)
    (hinv : ∀ s, inv s → inv' s) (hpost : ∀ a s, post a s → post' a s)
    (hexc : ∀ e s, exc e s → exc' e s) : Triple ev inv' pre' m post' exc' := by
  intro s hs
  have hends := h s (hpre s hs)
  match hout : m ev s, hends with
  | (.ok a, t), hends => exact hpost a t hends
  | (.raised e, t), hends => exact hexc e t hends
  | (.crashed, t), hends => exact hinv t hends

/-- Two judgements of one program. -/
theorem both {m : Proc π ε σ α} {inv' : σ → Prop} {post' : α → σ → Prop} {exc' : ε → σ → Prop}
    (h : Triple ev inv pre m post exc) (h' : Triple ev inv' pre m post' exc') :
    Triple ev (fun s => inv s ∧ inv' s) pre m (fun a s => post a s ∧ post' a s)
      (fun e s => exc e s ∧ exc' e s) := by
  intro s hs
  have hends := h s hs
  have hends' := h' s hs
  match hout : m ev s, hends, hends' with
  | (.ok a, t), hends, hends' => exact ⟨hends, hends'⟩
  | (.raised e, t), hends, hends' => exact ⟨hends, hends'⟩
  | (.crashed, t), hends, hends' => exact ⟨hends, hends'⟩

/-- What does not depend on the state is kept by every program. -/
theorem const {m : Proc π ε σ α} {Q : Prop} (h : ∀ s, pre s → Q) :
    Triple ev (fun _ => Q) pre m (fun _ _ => Q) (fun _ _ => Q) := by
  intro s hs
  match m ev s with
  | (.ok _, _) => exact h s hs
  | (.raised _, _) => exact h s hs
  | (.crashed, _) => exact h s hs

theorem modify {post : Unit → σ → Prop} {f : σ → σ} (h : ∀ s, pre s → post () (f s)) :
    Triple ev inv pre (Proc.modify f) post exc := h

theorem memory {f : σ → α} (h : ∀ s, pre s → post (f s) s) :
    Triple ev inv pre (Proc.memory f) post exc := h

/-- A program beside a memory, judged for each content of the memory. -/
theorem beside {μ : Type} {inv pre : σ × μ → Prop} {post : α → σ × μ → Prop}
    {exc : ε → σ × μ → Prop} {m : Proc π ε σ α}
    (h : ∀ memory, Triple ev (fun s => inv (s, memory)) (fun s => pre (s, memory)) m
      (fun a s => post a (s, memory)) (fun e s => exc e (s, memory))) :
    Triple ev inv pre (Proc.beside m) post exc := by
  rintro ⟨s, memory⟩ hs
  have hends := h memory s hs
  unfold Proc.beside
  match hout : m ev s, hends with
  | (.ok a, t), hends => exact hends
  | (.raised e, t), hends => exact hends
  | (.crashed, t), hends => exact hends

/-- The memory is left alone. -/
theorem frame {μ : Type} {Q : μ → Prop} {m : Proc π ε σ α} (h : Triple ev inv pre m post exc) :
    Triple ev (fun s => inv s.1 ∧ Q s.2) (fun s => pre s.1 ∧ Q s.2) (Proc.beside m)
      (fun a s => post a s.1 ∧ Q s.2) (fun e s => exc e s.1 ∧ Q s.2) := by
  rintro ⟨s, memory⟩ ⟨hs, hQ⟩
  have hends := h s hs
  unfold Proc.beside
  match hout : m ev s, hends with
  | (.ok a, t), hends => exact ⟨hends, hQ⟩
  | (.raised e, t), hends => exact ⟨hends, hQ⟩
  | (.crashed, t), hends => exact ⟨hends, hQ⟩

/-- A program that neither raises nor stops returns. -/
theorem returns {m : Proc π ε σ α}
    (h : Triple ev (fun _ => False) pre m post (fun _ _ => False)) {s : σ} (hs : pre s) :
    ∃ a t, m ev s = (.ok a, t) ∧ post a t := by
  have hends := h s hs
  match hout : m ev s, hends with
  | (.ok a, t), hends => exact ⟨a, t, rfl, hends⟩
  | (.raised _, _), hends => exact hends.elim
  | (.crashed, _), hends => exact hends.elim

/-- A program that can only stop, stops in `inv`. -/
theorem stops {m : Proc π ε σ α} (h : Triple ev inv pre m (fun _ _ => False) (fun _ _ => False))
    {s : σ} (hs : pre s) : inv (m ev s).2 := by
  have hends := h s hs
  match hout : m ev s, hends with
  | (.ok _, _), hends => exact hends.elim
  | (.raised _, _), hends => exact hends.elim
  | (.crashed, _), hends => exact hends

/-- A loop, with an invariant over what is still to come. -/
theorem forM {γ : Type} {xs : List γ} {body : γ → Proc π ε σ PUnit} (Inv : List γ → σ → Prop)
    (hbody : ∀ x rest, Triple ev inv (Inv (x :: rest)) (body x) (fun _ => Inv rest) exc) :
    Triple ev inv (Inv xs) (xs.forM body) (fun _ => Inv []) exc := by
  induction xs with
  | nil => exact pure fun _ h => h
  | cons x xs ih => exact bind (hbody x xs) fun _ => ih

/-- A loop that carries a value, with an invariant over what is still to come. -/
theorem foldlM {γ : Type} {xs : List γ} {body : α → γ → Proc π ε σ α}
    (Inv : List γ → α → σ → Prop)
    (hbody : ∀ a x rest, Triple ev inv (Inv (x :: rest) a) (body a x) (Inv rest) exc) (a : α) :
    Triple ev inv (Inv xs a) (xs.foldlM body a) (Inv []) exc := by
  induction xs generalizing a with
  | nil => exact pure fun _ h => h
  | cons x xs ih => exact bind (hbody a x xs) fun next => ih next

/-- A loop, with an invariant over what has been done. -/
theorem forM_done {γ : Type} {xs : List γ} {body : γ → Proc π ε σ PUnit}
    (Inv : List γ → σ → Prop)
    (hbody : ∀ done x rest, xs = done ++ x :: rest →
      Triple ev inv (Inv done) (body x) (fun _ => Inv (done ++ [x])) exc) :
    Triple ev inv (Inv []) (xs.forM body) (fun _ => Inv xs) exc := by
  have hloop : ∀ rest done, xs = done ++ rest →
      Triple ev inv (Inv done) (rest.forM body) (fun _ => Inv xs) exc := by
    intro rest
    induction rest with
    | nil =>
      intro done hsplit
      rw [hsplit, List.append_nil]
      exact pure fun _ h => h
    | cons x rest ih =>
      intro done hsplit
      exact bind (hbody done x rest hsplit) fun _ => ih (done ++ [x]) (by simp [hsplit])
  exact hloop xs [] rfl

end Triple

/-! ## Undisturbed runs -/

/-- Every step proceeds. -/
def Undisturbed (ev : π → Event ε) : Prop := ∀ point, ev point = .proceeds

/-- The program returns into `post`, unless its run is disturbed; then it ends in `J`. -/
abbrev Certain (ev : π → Event ε) (J pre : σ → Prop) (m : Proc π ε σ α)
    (post : α → σ → Prop) : Prop :=
  Triple ev (fun s => ¬ Undisturbed ev ∧ J s) pre m post (fun _ s => ¬ Undisturbed ev ∧ J s)

namespace Certain

variable {ev : π → Event ε} {J pre : σ → Prop} {post : α → σ → Prop}

theorem not_undisturbed (point : π) (h : ev point ≠ .proceeds) : ¬ Undisturbed ev :=
  fun hall => h (hall point)

/-- A step that cannot fail, and keeps `J`. -/
theorem step {point : π} {f : σ → Except ε (α × σ)} (hpre : ∀ s, pre s → J s)
    (hok : ∀ s, pre s → ∃ a t, f s = .ok (a, t) ∧ post a t ∧ J t) :
    Certain ev J pre (Proc.step point f) post := by
  intro s hs
  obtain ⟨a, t, hf, hpost, ht⟩ := hok s hs
  unfold Proc.step
  cases hev : ev point with
  | crashes => exact ⟨not_undisturbed point (by simp [hev]), hpre s hs⟩
  | raises e applied =>
    have hdisturbed : ¬ Undisturbed ev := not_undisturbed point (by simp [hev])
    cases applied with
    | false => exact ⟨hdisturbed, hpre s hs⟩
    | true =>
      simp only [hf]
      exact ⟨hdisturbed, ht⟩
  | proceeds =>
    simp only [hf]
    exact hpost

/-- A look at the state that cannot fail. -/
theorem read {point : π} {f : σ → Except ε α} (hpre : ∀ s, pre s → J s)
    (hok : ∀ s, pre s → ∃ a, f s = .ok a ∧ post a s) :
    Certain ev J pre (Proc.read point f) post := by
  intro s hs
  obtain ⟨a, hf, hpost⟩ := hok s hs
  unfold Proc.read Proc.action
  cases hev : ev point with
  | crashes => exact ⟨not_undisturbed point (by simp [hev]), hpre s hs⟩
  | raises e applied => exact ⟨not_undisturbed point (by simp [hev]), hpre s hs⟩
  | proceeds =>
    simp only [hf]
    exact hpost

/-- An undisturbed run returns. -/
theorem returns {m : Proc π ε σ α} (h : Certain ev J pre m post) (hev : Undisturbed ev) {s : σ}
    (hs : pre s) : ∃ a t, m ev s = (.ok a, t) ∧ post a t :=
  Triple.returns (h.weaken (fun _ => id) (fun _ hinv => (hinv.1 hev).elim) (fun _ _ => id)
    fun _ _ hexc => (hexc.1 hev).elim) hs

/-- However the run ends, it ends in `J`. -/
theorem ends {m : Proc π ε σ α} (h : Certain ev J pre m post)
    (hpost : ∀ a s, post a s → J s) {s : σ} (hs : pre s) : J (m ev s).2 := by
  have hends := h s hs
  match hout : m ev s, hends with
  | (.ok a, t), hends => exact hpost a t hends
  | (.raised _, _), hends => exact hends.2
  | (.crashed, _), hends => exact hends.2

end Certain

/-- The program never returns: it ends in `J`, and raises `e` if its run is undisturbed. -/
abbrev Fails (ev : π → Event ε) (J pre : σ → Prop) (m : Proc π ε σ α) (e : ε) : Prop :=
  Triple ev (fun s => ¬ Undisturbed ev ∧ J s) pre m (fun _ _ => False)
    (fun e' s => J s ∧ (Undisturbed ev → e' = e))

namespace Fails

variable {ev : π → Event ε} {J pre : σ → Prop} {e : ε}

/-- A step that fails. -/
theorem step {point : π} {f : σ → Except ε (α × σ)} (hpre : ∀ s, pre s → J s)
    (hf : ∀ s, pre s → f s = .error e) : Fails ev J pre (Proc.step point f) e := by
  intro s hs
  have hf := hf s hs
  unfold Proc.step
  cases hev : ev point with
  | crashes => exact ⟨Certain.not_undisturbed point (by simp [hev]), hpre s hs⟩
  | raises e' applied =>
    have hdisturbed : ¬ Undisturbed ev := Certain.not_undisturbed point (by simp [hev])
    cases applied with
    | false => exact ⟨hpre s hs, fun hall => (hdisturbed hall).elim⟩
    | true =>
      simp only [hf]
      exact ⟨hpre s hs, fun hall => (hdisturbed hall).elim⟩
  | proceeds =>
    simp only [hf]
    exact ⟨hpre s hs, fun _ => rfl⟩

/-- A look at the state that fails. -/
theorem read {point : π} {f : σ → Except ε α} (hpre : ∀ s, pre s → J s)
    (hf : ∀ s, pre s → f s = .error e) : Fails ev J pre (Proc.read point f) e := by
  intro s hs
  have hf := hf s hs
  unfold Proc.read Proc.action
  cases hev : ev point with
  | crashes => exact ⟨Certain.not_undisturbed point (by simp [hev]), hpre s hs⟩
  | raises e' applied =>
    exact ⟨hpre s hs, fun hall => (Certain.not_undisturbed point (by simp [hev]) hall).elim⟩
  | proceeds =>
    simp only [hf]
    exact ⟨hpre s hs, fun _ => rfl⟩

/-- Nothing follows a failure. -/
theorem bind {m : Proc π ε σ α} {f : α → Proc π ε σ β} (h : Fails ev J pre m e) :
    Fails ev J pre (m >>= f) e :=
  Triple.never h

/-- A failure after what is certain. -/
theorem after {m : Proc π ε σ α} {f : α → Proc π ε σ β} {M : α → σ → Prop}
    (hm : Certain ev J pre m M) (hf : ∀ a, Fails ev J (M a) (f a) e) :
    Fails ev J pre (m >>= f) e := by
  refine Triple.bind (hm.weaken (fun _ => id) (fun _ => id) (fun _ _ => id) ?_) hf
  exact fun _ _ h => ⟨h.2, fun hall => (h.1 hall).elim⟩

/-- A cleanup that keeps `J`. -/
theorem onRaise {body : Proc π ε σ α} {f : σ → σ} (h : Fails ev J pre body e)
    (hf : ∀ s, J s → J (f s)) : Fails ev J pre (Proc.onRaise body (Proc.modify f)) e :=
  Triple.onRaise h fun _ => Triple.modify fun s hs => ⟨hf s hs.1, hs.2⟩

/-- `except …: raise g`, with the exception `g` makes of the one it follows. -/
theorem tryExcept {body : Proc π ε σ α} {g : ε → ε} (h : Fails ev J pre body e) :
    Fails ev J pre (Proc.tryExcept body fun e => Proc.raise (g e)) (g e) :=
  Triple.tryExcept h fun _ => Triple.raise fun _ hs => ⟨hs.1, fun hall => congrArg g (hs.2 hall)⟩

theorem ends {m : Proc π ε σ α} (h : Fails ev J pre m e) {s : σ} (hs : pre s) :
    (∀ a, (m ev s).1 ≠ .ok a) ∧ J (m ev s).2 ∧ (Undisturbed ev → (m ev s).1 = .raised e) := by
  have hends := h s hs
  match hout : m ev s, hends with
  | (.ok a, t), hends => exact hends.elim
  | (.raised e', t), hends =>
    exact ⟨fun _ h => (by cases h), hends.1, fun hall => congrArg Outcome.raised (hends.2 hall)⟩
  | (.crashed, t), hends =>
    exact ⟨fun _ h => (by cases h), hends.2, fun hall => (hends.1 hall).elim⟩

end Fails

/-! ## Invariants -/

/-- Whatever happens at its steps, the program keeps `P`. -/
def Keeps (P : σ → Prop) (m : Proc π ε σ α) : Prop :=
  ∀ ev, Triple ev P P m (fun _ => P) (fun _ => P)

namespace Keeps

variable {P : σ → Prop}

theorem pure {a : α} : Keeps P (pure a : Proc π ε σ α) := fun _ => .pure fun _ h => h

theorem raise {e : ε} : Keeps P (raise e : Proc π ε σ α) := fun _ => .raise fun _ h => h

theorem ofExcept {x : Except ε α} : Keeps P (ofExcept x : Proc π ε σ α) :=
  fun _ => .ofExcept (fun _ _ _ h => h) (fun _ _ _ h => h)

theorem bind {m : Proc π ε σ α} {f : α → Proc π ε σ β} (hm : Keeps P m) (hf : ∀ a, Keeps P (f a)) :
    Keeps P (m >>= f) := fun ev => .bind (hm ev) fun a => hf a ev

theorem action {point : π} {f : σ → Except ε (α × σ)}
    (h : ∀ s a t, P s → f s = .ok (a, t) → P t) : Keeps P (action point f) :=
  fun _ => .action (fun _ h => h) h (fun _ _ h => h)

theorem read {point : π} {f : σ → Except ε α} : Keeps P (read point f) :=
  fun _ => .read (fun _ h => h) (fun _ _ h _ => h) (fun _ _ h => h)

theorem tryExcept {body : Proc π ε σ α} {handler : ε → Proc π ε σ α} (hbody : Keeps P body)
    (hhandler : ∀ e, Keeps P (handler e)) : Keeps P (tryExcept body handler) :=
  fun ev => .tryExcept (hbody ev) fun e => hhandler e ev

theorem onRaise {body : Proc π ε σ α} {cleanup : Proc π ε σ Unit} (hbody : Keeps P body)
    (hcleanup : Keeps P cleanup) : Keeps P (onRaise body cleanup) :=
  fun ev => .onRaise (hbody ev) fun _ => hcleanup ev

theorem forM {γ : Type} {xs : List γ} {body : γ → Proc π ε σ PUnit} (h : ∀ x, Keeps P (body x)) :
    Keeps P (xs.forM body) :=
  fun ev => .forM (fun _ => P) fun x _ => h x ev

/-- Only the items of the loop matter. -/
theorem forM_mem {γ : Type} {xs : List γ} {body : γ → Proc π ε σ PUnit}
    (h : ∀ x ∈ xs, Keeps P (body x)) : Keeps P (xs.forM body) := by
  induction xs with
  | nil => exact pure
  | cons x xs ih =>
    obtain ⟨hx, hxs⟩ := List.forall_mem_cons.mp h
    exact bind hx fun _ => ih hxs

/-- The state a program leaves, however it ends. -/
theorem apply {m : Proc π ε σ α} (h : Keeps P m) (ev : π → Event ε) {s : σ} (hs : P s) :
    P (m ev s).2 := by
  have hends := h ev s hs
  match hout : m ev s, hends with
  | (.ok _, _), hends => exact hends
  | (.raised _, _), hends => exact hends
  | (.crashed, _), hends => exact hends

end Keeps

/-! ## Memory -/

/-- But for its memory, the first program does what the second one does. -/
def Projects {μ : Type} (m : Proc π ε (σ × μ) α) (m' : Proc π ε σ α) : Prop :=
  ∀ ev s, ((m ev s).1, (m ev s).2.1) = m' ev s.1

namespace Projects

variable {μ : Type} {m : Proc π ε (σ × μ) α} {m' : Proc π ε σ α}

theorem beside : Projects (μ := μ) (Proc.beside m') m' := fun _ _ => rfl

theorem raise {e : ε} : Projects (μ := μ) (Proc.raise e) (Proc.raise e : Proc π ε σ α) :=
  fun _ _ => rfl

/-- What the second program does, by what the first one does. -/
theorem out (h : Projects m m') {ev : π → Event ε} {s t : σ × μ} {o : Outcome ε α}
    (hout : m ev s = (o, t)) : m' ev s.1 = (o, t.1) := by
  rw [← h ev s, hout]

theorem bind {f : α → Proc π ε (σ × μ) β} {f' : α → Proc π ε σ β} (hm : Projects m m')
    (hf : ∀ a, Projects (f a) (f' a)) : Projects (m >>= f) (m' >>= f') := by
  intro ev s
  match hout : m ev s with
  | (.ok a, t) => rw [bind_of_ok hout, bind_of_ok (hm.out hout), hf a ev t]
  | (.raised e, t) => rw [bind_of_raised hout, bind_of_raised (hm.out hout)]
  | (.crashed, t) => rw [bind_of_crashed hout, bind_of_crashed (hm.out hout)]

theorem tryExcept {handler : ε → Proc π ε (σ × μ) α} {handler' : ε → Proc π ε σ α}
    (hm : Projects m m') (hhandler : ∀ e, Projects (handler e) (handler' e)) :
    Projects (tryExcept m handler) (tryExcept m' handler') := by
  intro ev s
  unfold Proc.tryExcept
  match hout : m ev s with
  | (.ok a, t) => rw [hm.out hout]
  | (.raised e, t) =>
    rw [hm.out hout]
    exact hhandler e ev t
  | (.crashed, t) => rw [hm.out hout]

theorem onRaise {cleanup : Proc π ε (σ × μ) Unit} {cleanup' : Proc π ε σ Unit}
    (hm : Projects m m') (hcleanup : Projects cleanup cleanup') :
    Projects (onRaise m cleanup) (onRaise m' cleanup') :=
  tryExcept hm fun _ => bind hcleanup fun _ => raise

end Projects

end Proc

end StockResearch
