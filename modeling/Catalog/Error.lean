import Catalog.Rule.Dialect

/-! # Failures

The causes for which a call fails, and the one place where they are put into words.
-/

namespace Catalog

inductive RuleFault where
  | emptyDescendantKey
  | emptyKey
  | unclosedBracket
  | badBracket
  | unexpectedCharacter
  | pathOnMarkup
  | selectorOnJson
  | putNotText (key : String)
  | badPutObject
  /-- A regular expression or a selector that cannot be read. -/
  | malformed
  deriving DecidableEq, Repr

def RuleFault.message : RuleFault → Option String
  | emptyDescendantKey => some "empty key after `..`"
  | emptyKey => some "empty key after `.`"
  | unclosedBracket => some "unclosed `[`"
  | badBracket => some "bad bracket segment"
  | unexpectedCharacter => some "unexpected character"
  | pathOnMarkup => some "json path rule on html content"
  | selectorOnJson => some "css rule on json content"
  | putNotText key => some ("@put value for `" ++ key ++ "` is not a string")
  | badPutObject => some "bad @put object"
  | malformed => none

inductive QueryFault where
  | unbound
  | staleNode
  | elementOnJson
  | reported (text : String)
  deriving DecidableEq, Repr

def QueryFault.message : QueryFault → String
  | unbound => "no content bound"
  | staleNode => "bound node no longer exists"
  | elementOnJson => "element node bound to a json page"
  | reported text => text

inductive Error where
  | contentMissing (url : String)
  | cancelled
  | invalidRule (rule : String) (fault : RuleFault)
  | unsupportedDialect (d : Dialect)
  | invalidPattern
  | invalidSource
  | query (fault : QueryFault)
  | invalidBook
  deriving DecidableEq, Repr

def Error.message : Error → String
  | contentMissing url => "failed to get web content: " ++ url
  | cancelled => "extraction cancelled"
  | invalidRule rule fault =>
    "invalid rule `" ++ rule ++ "`" ++ (fault.message.elim "" fun reason => ": " ++ reason)
  | unsupportedDialect d => "unsupported rule dialect: " ++ d.name
  | invalidPattern => "invalid book url pattern"
  | invalidSource => "invalid book source"
  | query fault => "content query failed: " ++ fault.message
  | invalidBook => "invalid search book"

/-- If a sequence succeeds, so do its parts. -/
theorem Error.ok_of_bind_ok {α β : Type} {x : Except Error α} {f : α → Except Error β} {b : β}
    (h : x >>= f = .ok b) : ∃ a, x = .ok a ∧ f a = .ok b := by
  cases x with
  | ok a => exact ⟨a, rfl, h⟩
  | error e => cases h

theorem Error.ok_of_map_ok {α β : Type} {x : Except Error α} {f : α → β} {b : β}
    (h : x.map f = .ok b) : ∃ a, x = .ok a ∧ f a = b := by
  cases x with
  | ok a => exact ⟨a, rfl, Except.ok.inj h⟩
  | error e => cases h

/-- A sequence fails in its first part, or in its second. -/
theorem Error.error_of_bind_error {α β : Type} {x : Except Error α} {f : α → Except Error β}
    {e : Error} (h : x >>= f = .error e) : x = .error e ∨ ∃ a, x = .ok a ∧ f a = .error e := by
  cases x with
  | ok a => exact .inr ⟨a, rfl, h⟩
  | error e => exact .inl (congrArg Except.error (Except.error.inj h))

theorem Error.error_of_map_error {α β : Type} {x : Except Error α} {f : α → β} {e : Error}
    (h : x.map f = .error e) : x = .error e := by
  cases x with
  | ok a => cases h
  | error e => exact congrArg Except.error (Except.error.inj h)

theorem Error.isOk_map {α β : Type} {f : α → β} {x : Except Error α} :
    (x.map f).isOk = x.isOk := by
  cases x <;> rfl

/-- A list is read if all its items are. -/
theorem Error.isOk_mapM {α β : Type} {f : α → Except Error β} {xs : List α} :
    (xs.mapM f).isOk ↔ ∀ x ∈ xs, (f x).isOk := by
  induction xs with
  | nil => exact ⟨fun _ _ h => absurd h List.not_mem_nil, fun _ => rfl⟩
  | cons x xs ih =>
    rw [List.mapM_cons, List.forall_mem_cons, ← ih]
    cases f x with
    | error e => simp [Except.isOk, Except.toBool, bind, Except.bind]
    | ok y =>
      cases xs.mapM f <;> simp [Except.isOk, Except.toBool, bind, Except.bind, pure, Except.pure]

/-- If each item gives a result by itself, the list gives the list of these. -/
theorem mapM_eq_pure_map {m : Type → Type} [Monad m] [LawfulMonad m] {α β : Type} {f : α → m β}
    {g : α → β} {xs : List α} (h : ∀ x ∈ xs, f x = pure (g x)) : xs.mapM f = pure (xs.map g) := by
  induction xs with
  | nil => rfl
  | cons x xs ih =>
    obtain ⟨hx, hs⟩ := List.forall_mem_cons.mp h
    rw [List.mapM_cons, hx, ih hs, pure_bind, pure_bind, List.map_cons]

/-- Results that are related, or the same failure. -/
inductive Error.Lift {α β : Type} (R : α → β → Prop) : Except Error α → Except Error β → Prop
    where
  | ok {a : α} {b : β} (h : R a b) : Lift R (.ok a) (.ok b)
  | error (e : Error) : Lift R (.error e) (.error e)

theorem Error.Lift.eq {α : Type} {x y : Except Error α} (h : Error.Lift Eq x y) : x = y := by
  cases h with
  | ok h => rw [h]
  | error e => rfl

theorem Error.Lift.eq_map {α β : Type} {f : β → α} {x : Except Error α} {y : Except Error β}
    (h : Error.Lift (fun a b => a = f b) x y) : x = y.map f := by
  cases h with
  | ok h => exact congrArg Except.ok h
  | error e => rfl

theorem Error.Lift.imp {α β : Type} {R S : α → β → Prop} {x : Except Error α} {y : Except Error β}
    (h : Error.Lift R x y) (hR : ∀ a b, R a b → S a b) : Error.Lift S x y := by
  cases h with
  | ok h => exact .ok (hR _ _ h)
  | error e => exact .error e

end Catalog
