import CrowAgent.Lib.Coroutine

/-!
# Fallible coroutines with local state

An `Act` is a program that can end in an error and that keeps local variables, which it still hands
back when it fails, as a function does with what it borrowed.  `Act.wp` has one postcondition for
each way to end.
-/

namespace Coroutine

/-- A program with local variables `σ` that ends in a value or an error. -/
abbrev Act (sig : Signature) (σ ε α : Type) : Type := ExceptT ε (StateT σ (Prog sig)) α

variable {sig : Signature} {W σ ε ε' α β : Type} {c : Contract sig W}

namespace Act

/-- The program for given local variables. -/
def start (x : Act sig σ ε α) (locals : σ) : Prog sig (Except ε α × σ) := x.run.run locals

/-- Call an operation. -/
def perform (op : sig.Op) : Act sig σ ε (sig.Res op) :=
  ExceptT.mk fun locals => (Prog.perform op).bind fun answer => .done (.ok answer, locals)

/-- Go on with a value, or fail with the converted error. -/
def ofExcept (convert : ε' → ε) : Except ε' α → Act sig σ ε α
  | .ok value => pure value
  | .error error => throw (convert error)

/-- Go on with a value, or fail when there is none. -/
def ofOption (error : ε) : Option α → Act sig σ ε α
  | some value => pure value
  | none => throw error

/-- Fail when the condition holds. -/
def rejectIf (condition : Prop) [Decidable condition] (error : ε) : Act sig σ ε Unit :=
  if condition then throw error else pure ()

/-- Convert the errors of a program. -/
def mapError (convert : ε' → ε) (x : Act sig σ ε' α) : Act sig σ ε α :=
  ExceptT.mk fun locals => (x.start locals).bind fun (result, locals) =>
    .done (result.mapError convert, locals)

/-- Hand the error back as a value. -/
def attempt (x : Act sig σ ε' α) : Act sig σ ε (Except ε' α) :=
  ExceptT.mk fun locals => (x.start locals).bind fun (result, locals) =>
    .done (.ok result, locals)

/-- Run a program on a part of the local variables. -/
def zoom {τ : Type} (part : σ → τ) (put : τ → σ → σ) (x : Act sig τ ε α) : Act sig σ ε α :=
  ExceptT.mk fun locals => (x.start (part locals)).bind fun (result, inner) =>
    .done (result, put inner locals)

/-- Run a program on local variables of its own and hand them back. -/
def within {τ : Type} (inner : τ) (x : Act sig τ ε α) : Act sig σ ε (α × τ) :=
  ExceptT.mk fun locals => (x.start inner).bind fun (result, inner) =>
    .done (result.map (·, inner), locals)

/-- The program as a task that keeps nothing of its end. -/
def discard (x : Act sig σ ε α) (locals : σ) : Prog sig Unit :=
  (x.start locals).bind fun _ => .done ()

/-- The weakest precondition for ending in a value with `ok` or in an error with `err`. -/
def wp (c : Contract sig W) (x : Act sig σ ε α) (ok : α → σ → W → Prop) (err : ε → σ → W → Prop)
    (locals : σ) (w : W) : Prop :=
  (x.start locals).wp c (fun (result, locals) w =>
    match result with
    | .ok value => ok value locals w
    | .error error => err error locals w) w

variable {ok : α → σ → W → Prop} {err : ε → σ → W → Prop} {locals : σ} {w : W}

@[simp] theorem wp_pure {value : α} :
    (pure value : Act sig σ ε α).wp c ok err locals w ↔ ok value locals w := Iff.rfl

@[simp] theorem wp_throw {error : ε} :
    (throw error : Act sig σ ε α).wp c ok err locals w ↔ err error locals w := Iff.rfl

@[simp] theorem wp_get {ok : σ → σ → W → Prop} :
    (get : Act sig σ ε σ).wp c ok err locals w ↔ ok locals locals w := Iff.rfl

@[simp] theorem wp_set {ok : PUnit → σ → W → Prop} {new : σ} :
    (set new : Act sig σ ε PUnit).wp c ok err locals w ↔ ok .unit new w := Iff.rfl

@[simp] theorem wp_modify {ok : PUnit → σ → W → Prop} {f : σ → σ} :
    (modify f : Act sig σ ε PUnit).wp c ok err locals w ↔ ok .unit (f locals) w := Iff.rfl

/-- The rule of composition. -/
@[simp] theorem wp_bind {x : Act sig σ ε α} {f : α → Act sig σ ε β} {ok : β → σ → W → Prop} :
    (x >>= f).wp c ok err locals w ↔
      x.wp c (fun value locals w => (f value).wp c ok err locals w) err locals w := by
  have unfolded : (x >>= f).start locals = (x.start locals).bind fun result =>
      match result with
      | (.ok value, locals) => (f value).start locals
      | (.error error, locals) => .done (.error error, locals) := by
    change (x.start locals).bind _ = (x.start locals).bind _
    congr 1
    funext ⟨result, locals⟩
    cases result <;> rfl
  rw [wp, unfolded, Coroutine.wp_bind, wp]
  refine iff_of_eq (congrArg (fun Q => (x.start locals).wp c Q w) (funext₂ fun result w => ?_))
  obtain ⟨result, locals⟩ := result
  cases result <;> rfl

theorem wp_perform {op : sig.Op} {ok : sig.Res op → σ → W → Prop} :
    (perform op : Act sig σ ε (sig.Res op)).wp c ok err locals w ↔
      c.Calls op (fun answer w => ok answer locals w) w := Iff.rfl

theorem wp_ofExcept {convert : ε' → ε} {result : Except ε' α} :
    (ofExcept convert result : Act sig σ ε α).wp c ok err locals w ↔
      match result with
      | .ok value => ok value locals w
      | .error error => err (convert error) locals w := by
  cases result <;> rfl

theorem wp_ofOption {error : ε} {value : Option α} :
    (ofOption error value : Act sig σ ε α).wp c ok err locals w ↔
      match value with
      | some value => ok value locals w
      | none => err error locals w := by
  cases value <;> rfl

theorem wp_rejectIf {condition : Prop} [Decidable condition] {error : ε}
    {ok : Unit → σ → W → Prop} :
    (rejectIf condition error : Act sig σ ε Unit).wp c ok err locals w ↔
      if condition then err error locals w else ok () locals w := by
  unfold rejectIf
  split <;> rfl

@[simp] theorem wp_mapError {convert : ε' → ε} {x : Act sig σ ε' α} :
    (x.mapError convert).wp c ok err locals w ↔
      x.wp c ok (fun error => err (convert error)) locals w := by
  have unfolded : (x.mapError convert).start locals = (x.start locals).bind fun result =>
      .done (result.1.mapError convert, result.2) := rfl
  rw [wp, unfolded, Coroutine.wp_bind, wp]
  refine iff_of_eq (congrArg (fun Q => (x.start locals).wp c Q w) (funext₂ fun result w => ?_))
  obtain ⟨result, locals⟩ := result
  cases result <;> rfl

@[simp] theorem wp_attempt {x : Act sig σ ε' α} {ok : Except ε' α → σ → W → Prop} :
    (x.attempt : Act sig σ ε (Except ε' α)).wp c ok err locals w ↔
      x.wp c (fun value => ok (.ok value)) (fun error => ok (.error error)) locals w := by
  have unfolded : (x.attempt : Act sig σ ε (Except ε' α)).start locals =
      (x.start locals).bind fun result => .done (.ok result.1, result.2) := rfl
  rw [wp, unfolded, Coroutine.wp_bind, wp]
  refine iff_of_eq (congrArg (fun Q => (x.start locals).wp c Q w) (funext₂ fun result w => ?_))
  obtain ⟨result, locals⟩ := result
  cases result <;> rfl

@[simp] theorem wp_zoom {τ : Type} {part : σ → τ} {put : τ → σ → σ} {x : Act sig τ ε α} :
    (x.zoom part put).wp c ok err locals w ↔
      x.wp c (fun value inner => ok value (put inner locals))
        (fun error inner => err error (put inner locals)) (part locals) w := by
  have unfolded : (x.zoom part put).start locals = (x.start (part locals)).bind fun result =>
      .done (result.1, put result.2 locals) := rfl
  rw [wp, unfolded, Coroutine.wp_bind, wp]
  refine iff_of_eq (congrArg (fun Q => (x.start (part locals)).wp c Q w)
    (funext₂ fun result w => ?_))
  obtain ⟨result, locals⟩ := result
  cases result <;> rfl

@[simp] theorem wp_within {τ : Type} {inner : τ} {x : Act sig τ ε α} {ok : α × τ → σ → W → Prop} :
    (x.within inner).wp c ok err locals w ↔
      x.wp c (fun value inner => ok (value, inner) locals) (fun error _ => err error locals) inner
        w := by
  have unfolded : (x.within inner : Act sig σ ε (α × τ)).start locals =
      (x.start inner).bind fun result => .done (result.1.map (·, result.2), locals) := rfl
  rw [wp, unfolded, Coroutine.wp_bind, wp]
  refine iff_of_eq (congrArg (fun Q => (x.start inner).wp c Q w) (funext₂ fun result w => ?_))
  obtain ⟨result, inner⟩ := result
  cases result <;> rfl

theorem wp_discard {x : Act sig σ ε α} {Q : Unit → W → Prop} :
    (x.discard locals).wp c Q w ↔ x.wp c (fun _ _ => Q ()) (fun _ _ => Q ()) locals w := by
  rw [discard, Coroutine.wp_bind, wp]
  refine iff_of_eq (congrArg (fun Q => (x.start locals).wp c Q w) (funext₂ fun result w => ?_))
  obtain ⟨result, locals⟩ := result
  cases result <;> rfl

/-- The rule of consequence. -/
theorem wp_mono {x : Act sig σ ε α} {ok' : α → σ → W → Prop} {err' : ε → σ → W → Prop}
    (inv : c.inv w) (wp : x.wp c ok err locals w)
    (onOk : ∀ value locals w, c.inv w → ok value locals w → ok' value locals w)
    (onErr : ∀ error locals w, c.inv w → err error locals w → err' error locals w) :
    x.wp c ok' err' locals w := by
  refine Coroutine.wp_mono inv wp ?_
  rintro ⟨result, locals⟩ w inv done
  cases result with
  | ok value => exact onOk value locals w inv done
  | error error => exact onErr error locals w inv done

/-- What holds at the end for two reasons holds for both. -/
theorem wp_and {x : Act sig σ ε α} {ok' : α → σ → W → Prop} {err' : ε → σ → W → Prop}
    (first : x.wp c ok err locals w) (second : x.wp c ok' err' locals w) :
    x.wp c (fun value locals w => ok value locals w ∧ ok' value locals w)
      (fun error locals w => err error locals w ∧ err' error locals w) locals w := by
  refine Coroutine.wp_imp (Coroutine.wp_and first second) ?_
  rintro ⟨result, locals⟩ w both
  cases result with
  | ok value => exact both
  | error error => exact both

/-! ## The operations of a program -/

/-- The program calls no operation but the ones of `P`. -/
def Only (P : sig.Op → Prop) (x : Act sig σ ε α) : Prop :=
  ∀ locals, (x.start locals).Only P

section Only

variable {P : sig.Op → Prop} {x : Act sig σ ε α}

theorem Only.pure {value : α} : (Pure.pure value : Act sig σ ε α).Only P := fun _ => trivial

theorem Only.throw {error : ε} : (MonadExcept.throw error : Act sig σ ε α).Only P :=
  fun _ => trivial

theorem Only.get : (MonadState.get : Act sig σ ε σ).Only P := fun _ => trivial

theorem Only.set {new : σ} : (MonadStateOf.set new : Act sig σ ε PUnit).Only P := fun _ => trivial

theorem Only.modify {f : σ → σ} : (modifyThe σ f : Act sig σ ε PUnit).Only P := fun _ => trivial

theorem Only.perform {op : sig.Op} (only : P op) :
    (perform op : Act sig σ ε (sig.Res op)).Only P := fun _ => ⟨only, fun _ => trivial⟩

theorem Only.ofExcept {convert : ε' → ε} {result : Except ε' α} :
    (ofExcept convert result : Act sig σ ε α).Only P := by
  cases result with
  | ok value => exact Only.pure
  | error error => exact Only.throw

theorem Only.ofOption {error : ε} {value : Option α} :
    (ofOption error value : Act sig σ ε α).Only P := by
  cases value with
  | some value => exact Only.pure
  | none => exact Only.throw

theorem Only.rejectIf {condition : Prop} [Decidable condition] {error : ε} :
    (rejectIf condition error : Act sig σ ε Unit).Only P := by
  unfold Act.rejectIf
  split
  · exact Only.throw
  · exact Only.pure

theorem Only.bind {f : α → Act sig σ ε β} (first : x.Only P) (second : ∀ value, (f value).Only P) :
    (x >>= f).Only P := by
  intro locals
  refine Prog.Only.bind (first locals) fun result => ?_
  obtain ⟨result, locals⟩ := result
  cases result with
  | ok value => exact second value locals
  | error error => trivial

/-- What goes on after a value knows where the value comes from. -/
theorem Only.bind_ofExcept {convert : ε' → ε} {result : Except ε' α} {f : α → Act sig σ ε β}
    (second : ∀ value, result = .ok value → (f value).Only P) :
    (Act.ofExcept convert result >>= f : Act sig σ ε β).Only P := by
  intro locals
  cases result with
  | ok value => exact second value rfl locals
  | error error => trivial

theorem Only.mapError {x : Act sig σ ε' α} {convert : ε' → ε} (only : x.Only P) :
    (x.mapError convert).Only P := fun locals => (only locals).bind fun _ => trivial

theorem Only.attempt {x : Act sig σ ε' α} (only : x.Only P) :
    (x.attempt : Act sig σ ε (Except ε' α)).Only P := fun locals => (only locals).bind fun _ => trivial

theorem Only.zoom {τ : Type} {part : σ → τ} {put : τ → σ → σ} {x : Act sig τ ε α}
    (only : x.Only P) : (x.zoom part put).Only P := fun _ => (only _).bind fun _ => trivial

theorem Only.within {τ : Type} {inner : τ} {x : Act sig τ ε α} (only : x.Only P) :
    (x.within inner : Act sig σ ε (α × τ)).Only P := fun _ => (only _).bind fun _ => trivial

theorem Only.discard (only : x.Only P) {locals : σ} : (x.discard locals).Only P :=
  (only locals).bind fun _ => trivial

theorem Only.mono {P' : sig.Op → Prop} (only : x.Only P) (imp : ∀ op, P op → P' op) : x.Only P' :=
  fun locals => (only locals).mono imp

/-- Every program calls some operations. -/
theorem only_true {x : Act sig σ ε α} : x.Only fun _ => True := fun _ => Prog.only_true

/-- The frame rule. -/
theorem wp_keeps {R : W → W → Prop} (keeps : c.Keeps P R) (only : x.Only P) (inv : c.inv w)
    (wp : x.wp c ok err locals w) :
    x.wp c (fun value locals w' => R w w' ∧ ok value locals w')
      (fun error locals w' => R w w' ∧ err error locals w') locals w := by
  refine Coroutine.wp_mono inv (Coroutine.wp_keeps keeps (only locals) inv wp) ?_
  intro final w' _ done
  obtain ⟨result, locals⟩ := final
  cases result with
  | ok value => exact done
  | error error => exact done

/-- The rule of local invariants. -/
theorem wp_preserves {I : W → Prop} (preserves : c.Preserves P I) (only : x.Only P)
    (inv : c.inv w) (holds : I w) :
    x.wp c (fun _ _ => I) (fun _ _ => I) locals w := by
  refine Coroutine.wp_mono inv (Coroutine.wp_preserves preserves (only locals) inv holds) ?_
  intro final w' _ done
  obtain ⟨result, locals⟩ := final
  cases result with
  | ok value => exact done
  | error error => exact done

end Only

/-! ## The values of a program -/

/-- Every value the program returns has the property. -/
def Yields (R : α → Prop) (x : Act sig σ ε α) : Prop :=
  ∀ locals, (x.start locals).Yields fun result => ∀ value, result.1 = .ok value → R value

section Yields

variable {R : α → Prop} {R' : β → Prop} {x : Act sig σ ε α}

theorem Yields.pure {value : α} (has : R value) : (Pure.pure value : Act sig σ ε α).Yields R := by
  intro locals other same
  cases same
  exact has

theorem Yields.throw {error : ε} : (MonadExcept.throw error : Act sig σ ε α).Yields R :=
  fun _ _ same => nomatch same

theorem Yields.any : x.Yields fun _ => True :=
  fun _ => by simpa using Prog.yields_true

theorem Yields.bind {f : α → Act sig σ ε β} (first : x.Yields R)
    (second : ∀ value, R value → (f value).Yields R') : (x >>= f).Yields R' := by
  intro locals
  refine Prog.Yields.bind (first locals) fun result has => ?_
  obtain ⟨result, locals⟩ := result
  cases result with
  | ok value => exact second value (has value rfl) locals
  | error error => exact fun _ same => nomatch same

theorem Yields.mono (yields : x.Yields R) {R' : α → Prop} (imp : ∀ value, R value → R' value) :
    x.Yields R' :=
  fun locals => (yields locals).mono fun _ has value same => imp value (has value same)

/-- What follows on any value. -/
theorem Yields.after {f : α → Act sig σ ε β} (second : ∀ value, (f value).Yields R') :
    (x >>= f).Yields R' := Yields.any.bind fun value _ => second value

/-- What goes on after a value knows what the value is like. -/
theorem Only.bind_yields {P : sig.Op → Prop} {f : α → Act sig σ ε β} (first : x.Only P)
    (yields : x.Yields R) (second : ∀ value, R value → (f value).Only P) : (x >>= f).Only P := by
  intro locals
  refine Prog.Only.bind_yields (first locals) (yields locals) fun result has => ?_
  obtain ⟨result, locals⟩ := result
  cases result with
  | ok value => exact second value (has value rfl) locals
  | error error => trivial

/-- The postcondition can say what the value is like. -/
theorem wp_yields (yields : x.Yields R) (wp : x.wp c ok err locals w) :
    x.wp c (fun value locals w => R value ∧ ok value locals w) err locals w := by
  have both := Coroutine.wp_yields (yields locals) (show Prog.wp c (x.start locals) _ w from wp)
  refine Coroutine.wp_imp both ?_
  intro final w' done
  obtain ⟨result, locals⟩ := final
  cases result with
  | ok value => exact ⟨done.1 value rfl, done.2⟩
  | error error => exact done.2

end Yields

/-! ## The errors of a program -/

/-- Every error the program ends in has the property. -/
def Throws (R : ε → Prop) (x : Act sig σ ε α) : Prop :=
  ∀ locals, (x.start locals).Yields fun result => ∀ error, result.1 = .error error → R error

section Throws

variable {R : ε → Prop} {x : Act sig σ ε α}

theorem Throws.pure {value : α} : (Pure.pure value : Act sig σ ε α).Throws R := by
  intro locals error same
  cases same

theorem Throws.throw {error : ε} (has : R error) :
    (MonadExcept.throw error : Act sig σ ε α).Throws R := by
  intro locals other same
  cases same
  exact has

theorem Throws.get : (MonadState.get : Act sig σ ε σ).Throws R := by
  intro locals error same
  cases same

theorem Throws.modify {f : σ → σ} : (modifyThe σ f : Act sig σ ε PUnit).Throws R := by
  intro locals error same
  cases same

theorem Throws.perform {op : sig.Op} : (perform op : Act sig σ ε (sig.Res op)).Throws R := by
  intro locals answer error same
  cases same

theorem Throws.ofExcept {convert : ε' → ε} {result : Except ε' α}
    (has : ∀ error, result = .error error → R (convert error)) :
    (ofExcept convert result : Act sig σ ε α).Throws R := by
  cases result with
  | ok value => exact Throws.pure
  | error error => exact Throws.throw (has error rfl)

theorem Throws.bind {f : α → Act sig σ ε β} (first : x.Throws R)
    (second : ∀ value, (f value).Throws R) : (x >>= f).Throws R := by
  intro locals
  refine Prog.Yields.bind (first locals) fun result has => ?_
  rcases result with ⟨result, locals⟩
  cases result with
  | ok value => exact second value locals
  | error error =>
    intro other same
    cases same
    exact has error rfl

theorem Throws.attempt {x : Act sig σ ε' α} :
    (x.attempt : Act sig σ ε (Except ε' α)).Throws R := by
  intro locals
  refine Prog.Yields.bind Prog.yields_true fun result _ => ?_
  intro error same
  cases same

theorem Throws.mapError {x : Act sig σ ε' α} {convert : ε' → ε} (has : ∀ error, R (convert error)) :
    (x.mapError convert).Throws R := by
  intro locals
  refine Prog.Yields.bind Prog.yields_true fun result _ => ?_
  rcases result with ⟨result, locals⟩
  cases result with
  | ok value =>
    intro other same
    cases same
  | error error =>
    intro other same
    cases same
    exact has error

/-- The postcondition can say what the error is like. -/
theorem wp_throws (throws : x.Throws R) (wp : x.wp c ok err locals w) :
    x.wp c ok (fun error locals w => R error ∧ err error locals w) locals w := by
  have both := Coroutine.wp_yields (throws locals) (show Prog.wp c (x.start locals) _ w from wp)
  refine Coroutine.wp_imp both ?_
  intro final w' done
  rcases final with ⟨result, locals⟩
  cases result with
  | ok value => exact done.2
  | error error => exact ⟨done.1 error rfl, done.2⟩

end Throws

/-! ## Programs that leave their local variables alone -/

/-- The program hands its local variables back as they were. -/
def Steady (x : Act sig σ ε α) : Prop :=
  ∀ locals, (x.start locals).Yields fun result => result.2 = locals

section Steady

variable {x : Act sig σ ε α}

theorem Steady.pure {value : α} : (Pure.pure value : Act sig σ ε α).Steady := fun _ => rfl

theorem Steady.throw {error : ε} : (MonadExcept.throw error : Act sig σ ε α).Steady := fun _ => rfl

theorem Steady.get : (MonadState.get : Act sig σ ε σ).Steady := fun _ => rfl

theorem Steady.perform {op : sig.Op} : (perform op : Act sig σ ε (sig.Res op)).Steady :=
  fun _ _ => rfl

theorem Steady.ofExcept {convert : ε' → ε} {result : Except ε' α} :
    (ofExcept convert result : Act sig σ ε α).Steady := by
  cases result with
  | ok value => exact Steady.pure
  | error error => exact Steady.throw

theorem Steady.ofOption {error : ε} {value : Option α} :
    (ofOption error value : Act sig σ ε α).Steady := by
  cases value with
  | some value => exact Steady.pure
  | none => exact Steady.throw

theorem Steady.rejectIf {condition : Prop} [Decidable condition] {error : ε} :
    (rejectIf condition error : Act sig σ ε Unit).Steady := by
  unfold Act.rejectIf
  split
  · exact Steady.throw
  · exact Steady.pure

theorem Steady.bind {f : α → Act sig σ ε β} (first : x.Steady) (second : ∀ value, (f value).Steady) :
    (x >>= f).Steady := by
  intro locals
  refine Prog.Yields.bind (first locals) fun result same => ?_
  rcases result with ⟨result, locals'⟩
  obtain rfl : locals' = locals := same
  cases result with
  | ok value => exact second value locals'
  | error error => exact rfl

theorem Steady.mapError {x : Act sig σ ε' α} {convert : ε' → ε} (steady : x.Steady) :
    (x.mapError convert).Steady := fun locals => (steady locals).bind fun _ same => same

theorem Steady.attempt {x : Act sig σ ε' α} (steady : x.Steady) :
    (x.attempt : Act sig σ ε (Except ε' α)).Steady :=
  fun locals => (steady locals).bind fun _ same => same

/-- The postconditions can say that the local variables are as they were. -/
theorem wp_steady (steady : x.Steady) (wp : x.wp c ok err locals w) :
    x.wp c (fun value locals' w => locals' = locals ∧ ok value locals' w)
      (fun error locals' w => locals' = locals ∧ err error locals' w) locals w := by
  have both := Coroutine.wp_yields (steady locals) (show Prog.wp c (x.start locals) _ w from wp)
  refine Coroutine.wp_imp both ?_
  intro final w' done
  rcases final with ⟨result, locals'⟩
  cases result with
  | ok value => exact done
  | error error => exact done

/-- The rule of local invariants, for an invariant that looks at the local variables. -/
theorem wp_holds {P : sig.Op → Prop} {I : σ → W → Prop} (preserves : c.Preserves P (I locals))
    (only : x.Only P) (steady : x.Steady) (inv : c.inv w) (holds : I locals w) :
    x.wp c (fun _ => I) (fun _ => I) locals w := by
  have kept : x.wp c (fun _ _ => I locals) (fun _ _ => I locals) locals w :=
    wp_preserves preserves only inv holds
  refine wp_mono inv (wp_steady steady kept) (fun _ locals' w' _ done => ?_) fun _ locals' w' _ done => ?_
  · exact done.1 ▸ done.2
  · exact done.1 ▸ done.2

/-- The rule of local invariants, for a program that leaves its local variables alone. -/
theorem wp_rests {P : sig.Op → Prop} {I : W → Prop} (preserves : c.Preserves P I) (only : x.Only P)
    (steady : x.Steady) (inv : c.inv w) (holds : I w) :
    x.wp c (fun _ locals' w => locals' = locals ∧ I w) (fun _ locals' w => locals' = locals ∧ I w)
      locals w := wp_steady steady (wp_preserves preserves only inv holds)

end Steady

/-! ## Runs -/

/-- The program can run to its end with the result. -/
def Runs (sys : System sig W) (x : Act sig σ ε α) (locals : σ) (w : W) (result : Except ε α)
    (locals' : σ) (w' : W) : Prop := (x.start locals).Runs sys w (result, locals') w'

variable {sys : System sig W} {locals' locals'' : σ} {w' w'' : W}

theorem Runs.pure {value : α} :
    (Pure.pure value : Act sig σ ε α).Runs sys locals w (.ok value) locals w := .done

/-- Runs compose. -/
theorem Runs.bind {x : Act sig σ ε α} {f : α → Act sig σ ε β} {value : α} {result : Except ε β}
    (first : x.Runs sys locals w (.ok value) locals' w')
    (second : (f value).Runs sys locals' w' result locals'' w'') :
    (x >>= f).Runs sys locals w result locals'' w'' :=
  Prog.Runs.bind first second

/-- An error ends the run. -/
theorem Runs.bind_error {x : Act sig σ ε α} {f : α → Act sig σ ε β} {error : ε}
    (first : x.Runs sys locals w (.error error) locals' w') :
    (x >>= f).Runs sys locals w (.error error) locals' w' :=
  Prog.Runs.bind first .done

theorem Runs.perform {op : sig.Op} {answer : sig.Res op} {w₁ w₂ : W} (begins : sys.begin op w w₁)
    (between : sys.Between op w₁ w₂) (answers : sys.answer op w₂ answer w') :
    (perform op : Act sig σ ε (sig.Res op)).Runs sys locals w (.ok answer) locals w' :=
  .call begins between answers .done

theorem Runs.ofExcept {convert : ε' → ε} {result : Except ε' α} {value : α}
    (ok : result = .ok value) :
    (ofExcept convert result : Act sig σ ε α).Runs sys locals w (.ok value) locals w := by
  subst ok
  exact Runs.pure

theorem Runs.ofOption {error : ε} {option : Option α} {value : α} (some : option = some value) :
    (ofOption error option : Act sig σ ε α).Runs sys locals w (.ok value) locals w := by
  subst some
  exact Runs.pure

theorem Runs.rejectIf {condition : Prop} [Decidable condition] {error : ε}
    (holds : ¬condition) :
    (rejectIf condition error : Act sig σ ε Unit).Runs sys locals w (.ok ()) locals w := by
  unfold Act.rejectIf
  rw [if_neg holds]
  exact Runs.pure

theorem Runs.rejectIf_error {condition : Prop} [Decidable condition] {error : ε}
    (holds : condition) :
    (Act.rejectIf condition error : Act sig σ ε Unit).Runs sys locals w (.error error) locals w := by
  unfold Act.rejectIf
  rw [if_pos holds]
  exact .done

theorem Runs.mapError {x : Act sig σ ε' α} {convert : ε' → ε} {result : Except ε' α}
    (runs : x.Runs sys locals w result locals' w') :
    (x.mapError convert).Runs sys locals w (result.mapError convert) locals' w' :=
  Prog.Runs.bind runs .done

theorem Runs.attempt {x : Act sig σ ε' α} {result : Except ε' α}
    (runs : x.Runs sys locals w result locals' w') :
    (x.attempt : Act sig σ ε (Except ε' α)).Runs sys locals w (.ok result) locals' w' :=
  Prog.Runs.bind runs .done

theorem Runs.zoom {τ : Type} {part : σ → τ} {put : τ → σ → σ} {x : Act sig τ ε α} {inner : τ}
    {result : Except ε α} (runs : x.Runs sys (part locals) w result inner w') :
    (x.zoom part put).Runs sys locals w result (put inner locals) w' :=
  Prog.Runs.bind runs .done

theorem Runs.within {τ : Type} {inner inner' : τ} {x : Act sig τ ε α} {result : Except ε α}
    (runs : x.Runs sys inner w result inner' w') :
    (x.within inner : Act sig σ ε (α × τ)).Runs sys locals w (result.map (·, inner')) locals w' :=
  Prog.Runs.bind runs .done

/-- The program can run up to a call of the operation. -/
def LeadsTo (sys : System sig W) (x : Act sig σ ε α) (locals : σ) (w : W) (op : sig.Op) (w' : W) :
    Prop := (x.start locals).LeadsTo sys w op w'

theorem LeadsTo.perform {op : sig.Op} :
    (perform op : Act sig σ ε (sig.Res op)).LeadsTo sys locals w op w := .here

theorem LeadsTo.bind {x : Act sig σ ε α} {f : α → Act sig σ ε β} {op : sig.Op}
    (leads : x.LeadsTo sys locals w op w') : (x >>= f).LeadsTo sys locals w op w' :=
  Prog.LeadsTo.bind leads

/-- The call comes after a run of the first program. -/
theorem Runs.leadsTo {x : Act sig σ ε α} {f : α → Act sig σ ε β} {value : α} {op : sig.Op}
    (first : x.Runs sys locals w (.ok value) locals' w')
    (second : (f value).LeadsTo sys locals' w' op w'') :
    (x >>= f).LeadsTo sys locals w op w'' :=
  Prog.Runs.leadsTo first second

theorem LeadsTo.mapError {x : Act sig σ ε α} {convert : ε → ε'} {op : sig.Op}
    (leads : x.LeadsTo sys locals w op w') : (x.mapError convert).LeadsTo sys locals w op w' :=
  Prog.LeadsTo.bind leads

theorem LeadsTo.attempt {x : Act sig σ ε' α} {op : sig.Op}
    (leads : x.LeadsTo sys locals w op w') :
    (x.attempt : Act sig σ ε (Except ε' α)).LeadsTo sys locals w op w' :=
  Prog.LeadsTo.bind leads

theorem LeadsTo.within {τ : Type} {inner : τ} {x : Act sig τ ε α} {op : sig.Op}
    (leads : x.LeadsTo sys inner w op w') :
    (x.within inner : Act sig σ ε (α × τ)).LeadsTo sys locals w op w' :=
  Prog.LeadsTo.bind leads

theorem LeadsTo.zoom {τ : Type} {part : σ → τ} {put : τ → σ → σ} {x : Act sig τ ε α} {op : sig.Op}
    (leads : x.LeadsTo sys (part locals) w op w') :
    (x.zoom part put).LeadsTo sys locals w op w' :=
  Prog.LeadsTo.bind leads

/-- Some run of the program ends in a value with `ok`, or comes to a call with `call`. -/
def May (sys : System sig W) (x : Act sig σ ε α) (ok : α → σ → W → Prop)
    (call : sig.Op → W → Prop) (locals : σ) (w : W) : Prop :=
  (∃ value locals' w', x.Runs sys locals w (.ok value) locals' w' ∧ ok value locals' w') ∨
    ∃ op w', x.LeadsTo sys locals w op w' ∧ call op w'

section May

variable {call : sig.Op → W → Prop}

theorem Runs.may {x : Act sig σ ε α} {value : α} (runs : x.Runs sys locals w (.ok value) locals' w')
    (ends : ok value locals' w') : x.May sys ok call locals w := .inl ⟨value, locals', w', runs, ends⟩

theorem LeadsTo.may {x : Act sig σ ε α} {op : sig.Op} (leads : x.LeadsTo sys locals w op w')
    (comes : call op w') : x.May sys ok call locals w := .inr ⟨op, w', leads, comes⟩

/-- The rule of composition. -/
theorem May.bind {x : Act sig σ ε α} {f : α → Act sig σ ε β} {ok : β → σ → W → Prop}
    (first : x.May sys (fun value => (f value).May sys ok call) call locals w) :
    (x >>= f).May sys ok call locals w := by
  rcases first with ⟨value, locals', w', runs, second⟩ | ⟨op, w', leads, comes⟩
  · rcases second with ⟨result, locals'', w'', rest, ends⟩ | ⟨op, w'', leads, comes⟩
    · exact (runs.bind rest).may ends
    · exact (runs.leadsTo leads).may comes
  · exact leads.bind.may comes

theorem May.mapError {x : Act sig σ ε' α} {convert : ε' → ε} (may : x.May sys ok call locals w) :
    (x.mapError convert).May sys ok call locals w := by
  rcases may with ⟨value, locals', w', runs, ends⟩ | ⟨op, w', leads, comes⟩
  · exact runs.mapError.may ends
  · exact leads.mapError.may comes

theorem May.attempt {x : Act sig σ ε' α} {ok : Except ε' α → σ → W → Prop}
    (may : x.May sys (fun value => ok (.ok value)) call locals w) :
    (x.attempt : Act sig σ ε (Except ε' α)).May sys ok call locals w := by
  rcases may with ⟨value, locals', w', runs, ends⟩ | ⟨op, w', leads, comes⟩
  · exact runs.attempt.may ends
  · exact leads.attempt.may comes

theorem May.within {τ : Type} {inner : τ} {x : Act sig τ ε α} {ok : α × τ → σ → W → Prop}
    (may : x.May sys (fun value inner => ok (value, inner) locals) call inner w) :
    (x.within inner).May sys ok call locals w := by
  rcases may with ⟨value, inner', w', runs, ends⟩ | ⟨op, w', leads, comes⟩
  · exact runs.within.may ends
  · exact leads.within.may comes

theorem May.mono {x : Act sig σ ε α} {ok' : α → σ → W → Prop} {call' : sig.Op → W → Prop}
    (may : x.May sys ok call locals w) (onOk : ∀ value locals w, ok value locals w → ok' value locals w)
    (onCall : ∀ op w, call op w → call' op w) : x.May sys ok' call' locals w := by
  rcases may with ⟨value, locals', w', runs, ends⟩ | ⟨op, w', leads, comes⟩
  · exact runs.may (onOk value locals' w' ends)
  · exact leads.may (onCall op w' comes)

end May

/-- What is proved of a program holds at the end of each of its runs. -/
theorem Runs.wp_ok {x : Act sig σ ε α} {value : α}
    (runs : x.Runs c.sys locals w (.ok value) locals' w') (inv : c.inv w)
    (wp : x.wp c ok err locals w) : c.inv w' ∧ ok value locals' w' := by
  have whole : (x.start locals).Runs c.sys w (.ok value, locals') w' := runs
  exact whole.wp inv (show Prog.wp c (x.start locals) _ w from wp)

theorem Runs.wp_error {x : Act sig σ ε α} {error : ε}
    (runs : x.Runs c.sys locals w (.error error) locals' w') (inv : c.inv w)
    (wp : x.wp c ok err locals w) : c.inv w' ∧ err error locals' w' := by
  have whole : (x.start locals).Runs c.sys w (.error error, locals') w' := runs
  exact whole.wp inv (show Prog.wp c (x.start locals) _ w from wp)

/-- And it holds wherever its runs lead. -/
theorem LeadsTo.wp {x : Act sig σ ε α} {op : sig.Op} (leads : x.LeadsTo c.sys locals w op w')
    (inv : c.inv w) (wp : x.wp c ok err locals w) : c.inv w' ∧ c.pre op w' := by
  have whole : (x.start locals).LeadsTo c.sys w op w' := leads
  exact whole.wp inv (show Prog.wp c (x.start locals) _ w from wp)

attribute [irreducible] wp

end Act

end Coroutine
