import Cartridge.Text.Decimal

/-!
Reports: what an operation has to say beside its result.
-/

namespace Cartridge

inductive Severity where
  | warning
  | error
  deriving DecidableEq, Repr

/-- The text of a message or of one of its details. It is `foreign` when it quotes words of the
operating system, which differ from one machine to another. -/
inductive Wording where
  | own (text : String)
  | foreign (text : String)
  deriving DecidableEq, Repr

namespace Wording

def text : Wording → String
  | .own s => s
  | .foreign s => s

def ofNat (n : Nat) : Wording :=
  .own (String.ofList (Text.decimal n))

def ofInt (i : Int) : Wording :=
  .own (String.ofList (Text.decimalInt i))

end Wording

/-- Something worth telling, with named details. -/
structure Event where
  severity : Severity
  message : Wording
  details : List (String × Wording)
  deriving DecidableEq, Repr

def Event.warning (message : String) (details : List (String × Wording)) : Event :=
  ⟨.warning, .own message, details⟩

/-- A value with the events that arose while it was computed, in order. -/
structure Logged (α : Type) where
  value : α
  events : List Event
  deriving DecidableEq, Repr

namespace Logged

instance : Monad Logged where
  pure a := ⟨a, []⟩
  bind x f := ⟨(f x.value).value, x.events ++ (f x.value).events⟩

@[simp] theorem value_pure {α : Type} (a : α) : (pure a : Logged α).value = a := rfl

@[simp] theorem events_pure {α : Type} (a : α) : (pure a : Logged α).events = [] := rfl

@[simp] theorem value_bind {α β : Type} (x : Logged α) (f : α → Logged β) :
    (x >>= f).value = (f x.value).value := rfl

@[simp] theorem events_bind {α β : Type} (x : Logged α) (f : α → Logged β) :
    (x >>= f).events = x.events ++ (f x.value).events := rfl

def each {α β : Type} (items : List α) (f : α → Logged β) : Logged (List β) :=
  ⟨items.map fun a => (f a).value, items.flatMap fun a => (f a).events⟩

end Logged

end Cartridge
